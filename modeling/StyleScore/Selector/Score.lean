import StyleScore.Count
import StyleScore.Selector.Specificity
import StyleScore.Text.Alike
import StyleScore.Text.Blank

/-!
The complexity of a selector: its specificity, the combinator signs in its text and the logical
pseudo-classes named in it, each counting one.
-/
namespace StyleScore.Selector

/-- The text that is scored: lower case, runs of blanks as one space, no blanks around. -/
def tidy (text : Text) : Text := (Text.collapseBlanks (Text.lower text)).trim

/-- How messages show a selector. -/
def describe (text : Text) : Text := "Selector(".toList ++ Text.quoted text ++ [')']

/-- The signs counted as combinators, wherever they stand. -/
def combinatorSigns : List Char := ['~', '>', '+']

/-- Each sign with the number of times it occurs. -/
def combinatorCounts (text : Text) : List (Char × Nat) :=
  combinatorSigns.map fun sign => (sign, text.count sign)

def combinatorWeight (text : Text) : Nat :=
  total ((combinatorCounts text).map (·.2))

/-- The logical pseudo-class named at the start of the text, and the name as written. -/
def takeLogical? (text : Text) : Option (Logical × Text) :=
  Logical.all.findSome? fun l => (Text.takeAlike? l.name text).map fun written => (l, written)

/-- The names of logical pseudo-classes as written after colons. No name holds a colon, so every
colon can be looked at on its own. -/
def logicalNames : Text → List (Logical × Text)
  | [] => []
  | c :: rest =>
    if c = ':' then (takeLogical? rest).toList ++ logicalNames rest else logicalNames rest

/-- The logical pseudo-classes named in the text. A name that only passes for one of them has no
place in the count. -/
def logicals (text : Text) : Except Error (List Logical) :=
  let names := logicalNames text
  if names.all fun (l, written) => Text.lower written = l.name then .ok (names.map (·.1))
  else .error .missingKey

/-- Each logical pseudo-class with the number of times it is named. -/
def logicalCounts (text : Text) : Except Error (List (Logical × Nat)) :=
  (logicals text).map fun found => Logical.all.map fun l => (l, found.count l)

def logicalWeight (text : Text) : Except Error Nat :=
  (logicalCounts text).map fun counts => total (counts.map (·.2))

/-- A way to find the specificity of a text. -/
abbrev Calculator := Text → Except Error Specificity

def specificityWeight (calculate : Calculator) (text : Text) : Except Error Int :=
  (calculate text).map Specificity.total

/-- The complexity of a tidied text, with the specificity found by `calculate`. -/
def complexityBy (calculate : Calculator) (text : Text) : Except Error Int := do
  let specificity ← specificityWeight calculate text
  let logical ← logicalWeight text
  return specificity + combinatorWeight text + logical

/-- The complexity of a selector as written. -/
def complexity (text : Text) : Except Error Int := complexityBy specificity (tidy text)

end StyleScore.Selector
