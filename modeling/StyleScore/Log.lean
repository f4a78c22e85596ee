import StyleScore.Tree.Rule

/-!
Entries of the log, and those that reading a style sheet makes.
-/
namespace StyleScore

inductive Level where
  | debug | info | warning | error
  deriving DecidableEq, Repr

def Level.name : Level → Text
  | debug => "DEBUG".toList
  | info => "INFO".toList
  | warning => "WARNING".toList
  | error => "ERROR".toList

/-- The part of the program that an entry comes from. -/
inductive Source where
  | reader | weights | writer | console | run
  deriving DecidableEq, Repr

def Source.name : Source → Text
  | reader => "core.css_reader".toList
  | weights => "core.css_weights".toList
  | writer => "reporting.outputter".toList
  | console => "utils.logger".toList
  | run => "main".toList

structure Entry where
  level : Level
  source : Source
  text : Text
  deriving DecidableEq, Repr

def Note.entry : Note → Entry
  | skipped position cause =>
    ⟨.warning, .reader, "Skipping invalid CSS at ".toList ++ Text.ofNat position.line ++
      ':' :: Text.ofNat position.column ++ ": ".toList ++ cause.message⟩
  | notEntered keyword =>
    ⟨.debug, .reader, "Not descending into @".toList ++ keyword ++ " block".toList⟩

end StyleScore
