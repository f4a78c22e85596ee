import StyleScore.Text.Blank
import StyleScore.Text.Digit
import StyleScore.Text.Quoted

/-!
The options of a run, read from the arguments of the command line in two passes: each argument is
first told apart as option, operand or divider, then options take their values and operands become
the paths. Only the first unbroken row of operands holds paths.

Readers of arguments differ in what they make of odd ones. Here an equals sign within a row of short
names belongs to the value (`-vo=x` asks for the output `=x`), a letter in such a row that is no
name is refused as a value of the flag in front of it, and a value that is the divider counts as
none.
-/
namespace StyleScore.Cli

inductive Flag where
  | help | output | html | logFile | verbose
  deriving DecidableEq, Repr

namespace Flag

def names : Flag → List Text
  | help => ["-h".toList, "--help".toList]
  | output => ["-o".toList, "--output".toList]
  | html => ["--html".toList]
  | logFile => ["--log-file".toList]
  | verbose => ["-v".toList, "--verbose".toList]

def takesValue : Flag → Bool
  | help | verbose => false
  | output | html | logFile => true

def all : List Flag := [help, output, html, logFile, verbose]

/-- Every name with its flag, in the order in which messages list them. -/
def named : List (Text × Flag) := all.flatMap fun flag => flag.names.map (·, flag)

def ofName? (name : Text) : Option Flag := (named.find? (·.1 = name)).map Prod.snd

/-- A flag as messages call it. -/
def title (flag : Flag) : Text := Text.joinWith ['/'] flag.names

end Flag

inductive UsageError where
  | ambiguous (argument : Text) (names : List Text)
  | missingValue (flag : Flag)
  | unexpectedValue (flag : Flag) (value : Text)
  | missingPaths
  | unrecognised (arguments : List Text)
  deriving DecidableEq, Repr

def UsageError.message : UsageError → Text
  | ambiguous argument names =>
    "ambiguous option: ".toList ++ argument ++ " could match ".toList ++
      Text.joinWith ", ".toList names
  | missingValue flag => "argument ".toList ++ flag.title ++ ": expected one argument".toList
  | unexpectedValue flag value =>
    "argument ".toList ++ flag.title ++ ": ignored explicit argument ".toList ++ Text.quoted value
  | missingPaths => "the following arguments are required: paths".toList
  | unrecognised arguments =>
    "unrecognized arguments: ".toList ++ Text.joinWith [' '] arguments

/-- The last line of what is said about wrong arguments. -/
def UsageError.line (e : UsageError) : Text :=
  Text.lastLine ("css-weights: error: ".toList ++ e.message)

inductive Argument where
  /-- A flag under one of its names, with the value written into the same argument. -/
  | option (flag : Flag) (name : Text) (value : Option Text)
  | operand (text : Text)
  | divider
  /-- An argument that looks like an option and is none. -/
  | unknown (text : Text)
  deriving DecidableEq, Repr

namespace Argument

def dividerText : Text := "--".toList

/-- The text without a line feed at its end. -/
def withoutLineFeed (text : Text) : Text :=
  if text.getLast? = some '\n' then text.dropLast else text

/-- A dash with digits behind it, or with a point and digits behind that. A line feed may follow. -/
def isNegativeNumber (text : Text) : Bool :=
  match withoutLineFeed text with
  | '-' :: rest =>
    match Text.cutAt? ['.'] rest with
    | some (whole, fraction) => whole.all Text.isDigit && Text.isNumeral fraction
    | none => Text.isNumeral rest
  | _ => false

/-- The options that an argument abbreviates: a long name by any beginning, perhaps with a value
after an equals sign; a short name by itself, with the value right behind it. -/
def abbreviated (text : Text) : List (Flag × Text × Option Text) :=
  if Text.startsWith text dividerText then
    let (start, value) := match Text.cutAt? ['='] text with
      | some (start, value) => (start, some value)
      | none => (text, none)
    (Flag.named.filter fun (name, _) => Text.startsWith name start).map
      fun (name, flag) => (flag, name, value)
  else
    ((Flag.ofName? (text.take 2)).map fun flag => (flag, text.take 2, some (text.drop 2))).toList

/-- An argument in front of the divider. -/
def ofText (text : Text) : Except UsageError Argument :=
  if text.head? ≠ some '-' ∨ text = ['-'] then .ok (.operand text)
  else
    match Flag.ofName? text with
    | some flag => .ok (.option flag text none)
    | none =>
      let exact := (Text.cutAt? ['='] text).bind fun (name, value) =>
        (Flag.ofName? name).map fun flag => (flag, name, some value)
      match exact.elim (abbreviated text) ([·]) with
      | [(flag, name, value)] => .ok (.option flag name value)
      | [] =>
        if isNegativeNumber text ∨ ' ' ∈ text then .ok (.operand text) else .ok (.unknown text)
      | several => .error (.ambiguous text (several.map fun (_, name, _) => name))

/-- All arguments; behind the divider there are only operands. -/
def ofTexts : List Text → Except UsageError (List Argument)
  | [] => .ok []
  | text :: texts =>
    if text = dividerText then .ok (.divider :: texts.map .operand)
    else do
      let argument ← ofText text
      return argument :: (← ofTexts texts)

end Argument

structure Options where
  paths : List Text
  output : Option Text
  html : Option Text
  /-- The name of the log file; a name that is the divider is none. -/
  logFile : Option Text
  verbose : Bool
  deriving DecidableEq, Repr

/-- Why there is no run: help was asked for, or the arguments are wrong. -/
inductive Refusal where
  | help
  | usage (e : UsageError)
  deriving DecidableEq, Repr

namespace Options

def standard (logFile : Text) : Options := ⟨[], none, none, some logFile, false⟩

/-- The flags of a row of short names. A flag that takes a value takes all the rest, any other is
followed by the next name. -/
def shortRow (flag : Flag) : Text → Except UsageError (List (Flag × Option Text))
  | [] => if flag.takesValue then .ok [(flag, some [])] else .error (.unexpectedValue flag [])
  | c :: rest =>
    if flag.takesValue then .ok [(flag, some (c :: rest))]
    else match Flag.ofName? ['-', c] with
      | none => .error (.unexpectedValue flag (c :: rest))
      | some next =>
        if rest = [] then .ok [(flag, none), (next, none)]
        else (shortRow next rest).map ((flag, none) :: ·)

/-- The flags that an option gives, with the value written behind its name. -/
def flagsOf (flag : Flag) (name : Text) :
    Option Text → Except UsageError (List (Flag × Option Text))
  | none => .ok [(flag, none)]
  | some value =>
    if Text.startsWith name Argument.dividerText then
      if flag.takesValue then .ok [(flag, some value)] else .error (.unexpectedValue flag value)
    else shortRow flag value

/-- The flag at the end of a row that still needs a value. -/
def wanting? (flags : List (Flag × Option Text)) : Option Flag :=
  match flags.getLast? with
  | some (flag, none) => if flag.takesValue then some flag else none
  | _ => none

/-- A flag sets its option; the divider is no value. -/
def set (options : Options) : Flag × Option Text → Except Refusal Options
  | (.help, _) => .error .help
  | (.verbose, _) => .ok { options with verbose := true }
  | (.output, value) => .ok { options with output := value.filter (· ≠ Argument.dividerText) }
  | (.html, value) => .ok { options with html := value.filter (· ≠ Argument.dividerText) }
  | (.logFile, value) => .ok { options with logFile := value.filter (· ≠ Argument.dividerText) }

/-- The operands are paths up to the first option behind the first of them. -/
inductive Phase where
  | before | within | after
  deriving DecidableEq, Repr

def Phase.atOption : Phase → Phase
  | before => before
  | within | after => after

/-- What has been made of the arguments so far. -/
structure Progress where
  options : Options
  phase : Phase
  extra : List Text
  deriving DecidableEq, Repr

def Progress.operand (progress : Progress) (text : Text) : Progress :=
  match progress.phase with
  | .after => { progress with extra := progress.extra ++ [text] }
  | _ => { progress with
      options := { progress.options with paths := progress.options.paths ++ [text] }
      phase := .within }

def Progress.divider (progress : Progress) : Progress :=
  match progress.phase with
  | .after => { progress with extra := progress.extra ++ [Argument.dividerText] }
  | _ => progress

def Progress.flags (progress : Progress) (flags : List (Flag × Option Text)) :
    Except Refusal Progress :=
  (flags.foldlM set progress.options).map fun options =>
    ⟨options, progress.phase.atOption, progress.extra⟩

def Progress.unknown (progress : Progress) (text : Text) : Progress :=
  { progress with extra := progress.extra ++ [text], phase := progress.phase.atOption }

/-- Takes the arguments from left to right. -/
def take (progress : Progress) : List Argument → Except Refusal Progress
  | [] => .ok progress
  | .operand text :: arguments => take (progress.operand text) arguments
  | .divider :: arguments => take progress.divider arguments
  | .unknown text :: arguments => take (progress.unknown text) arguments
  | .option flag name value :: arguments => do
    let flags ← (flagsOf flag name value).mapError .usage
    match wanting? flags with
    | none => take (← progress.flags flags) arguments
    | some last =>
      match arguments with
      | .operand text :: arguments =>
        take (← progress.flags (flags.dropLast ++ [(last, some text)])) arguments
      | _ => .error (.usage (.missingValue last))

def finish (progress : Progress) : Except Refusal Options :=
  if progress.options.paths = [] then .error (.usage .missingPaths)
  else if progress.extra ≠ [] then .error (.usage (.unrecognised progress.extra))
  else .ok progress.options

/-- The options that arguments stand for; the log file has a name of its own unless one is given. -/
def ofArguments (logFile : Text) (texts : List Text) : Except Refusal Options := do
  let arguments ← (Argument.ofTexts texts).mapError .usage
  finish (← take ⟨standard logFile, .before, []⟩ arguments)

end Options
end StyleScore.Cli
