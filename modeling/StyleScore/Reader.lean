import StyleScore.Report.Score
import StyleScore.World

/-!
A reader of style sheets: it reads a file, keeps the text, and keeps the tree of that text for as
long as the text stays the same.
-/
namespace StyleScore

/-- A tree together with the number of the reading that made it: two trees are one and the same
exactly when the numbers agree. -/
structure Sheet where
  reading : Nat
  forest : Forest
  deriving Repr

/-- The text that was read last, and its tree if it could be read. -/
structure Reading where
  text : Text
  sheet : Option Sheet
  deriving Repr

structure Reader where
  file : Option Text
  text : Option Text
  last : Option Reading
  /-- How many texts were read. -/
  readings : Nat
  deriving Repr

namespace Reader

def ofFile (file : Option Text) : Reader := ⟨file, none, none, 0⟩

def nonempty (text : Option Text) : Option Text := text.filter (· ≠ [])

/-- The text of a file; one that the disk refuses has none, and the log says why. -/
def contents (file : Option Text) : Action (Option Text) := do
  match nonempty file with
  | none => throw .noFileName
  | some name =>
    match ← (Action.inspect fun disk => disk.readText (Path.ofText name)).attempt with
    | .ok text => return some text
    | .error (.file cause path) =>
      Action.record .error .reader ("Error reading file ".toList ++ name ++ ": ".toList ++
        ((Error.file cause path).message?.getD []))
      return none
    | .error e => throw e

/-- A text takes the place of the one before, unless it is empty. -/
def setText (reader : Reader) (text : Option Text) : Reader :=
  match nonempty text with
  | some text => { reader with text := some text }
  | none => reader

def load (reader : Reader) : Action (Option Text × Reader) := do
  match ← (contents reader.file).attempt with
  | .ok text => return (text, reader.setText text)
  | .error e =>
    Action.record .error .reader ("Error reading CSS: ".toList ++ e.message?.getD [])
    throw e

/-- The tree of a text; there is none for a text that cannot be read, and the log says why. -/
def parse (text : Text) : Action (Option Forest) := do
  Action.record .info .reader "Starting CSS parsing".toList
  match Rule.ofText text with
  | .ok (rules, notes) =>
    Action.recordAll (notes.map Note.entry)
    Action.record .debug .reader
      ("Parsed ".toList ++ Text.ofNat rules.length ++ " top-level rules".toList)
    return some (Forest.ofRules rules)
  | .error e =>
    Action.record .error .reader ("Error parsing CSS: ".toList ++ e.message?.getD [])
    return none

/-- The reading of the present text: the last one, if that was of this text, or a new one. -/
def sheet (reader : Reader) : Action (Option Sheet × Reader) := do
  match reader.text with
  | none => return (none, reader)
  | some text =>
    match reader.last.filter (·.text = text) with
    | some reading => return (reading.sheet, reader)
    | none =>
      let sheet := (← parse text).map (⟨reader.readings, ·⟩)
      return (sheet, { reader with last := some ⟨text, sheet⟩, readings := reader.readings + 1 })

def selectors (reader : Reader) : Action (Option (List Text) × Reader) := do
  match ← reader.sheet with
  | (none, reader) => return (none, reader)
  | (some sheet, reader) =>
    let selectors ← Action.ofExcept (sheet.forest.uniqueSelectors (some Forest.root))
    return (some selectors, reader)

end Reader

/-- The score of a tree, with the counts in the log. -/
def Forest.scoreAloud (forest : Forest) (tree : Option NodeId) : Action Score := do
  let selectors ← Action.ofExcept (forest.uniqueSelectors tree)
  let headers ← Action.ofExcept (forest.inventory tree)
  Action.record .debug .weights
    ("Found ".toList ++ Text.ofNat headers.length ++ " enclosing at-rules".toList)
  let rules ← Action.ofExcept (forest.weightedRules tree)
  Action.record .debug .weights ("Weighted ".toList ++ Text.ofNat rules.length ++ " rules".toList)
  return ⟨selectors, headers, rules⟩

end StyleScore
