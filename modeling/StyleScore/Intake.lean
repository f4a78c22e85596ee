import StyleScore.Header.Basic
import StyleScore.Selector.List
import StyleScore.Selector.Score
import StyleScore.Value.Show

/-!
Values of any type where a text is expected: what is taken for the empty text, what is refused, and
with which error.
-/
namespace StyleScore.Intake

/-- A text; any other value is refused under the name `what`. -/
def text (what : String) : Value → Except Error Text
  | .text t => .ok t
  | _ => .error (.notText what.toList)

/-- A text, where values that count as nothing stand for the empty one. -/
def textOrNothing (what : String) (v : Value) : Except Error Text :=
  if v.isTruthy then text what v else .ok []

def tidySelector (v : Value) : Except Error Text := (text "selector" v).map Selector.tidy

def tidyHeader (v : Value) : Except Error Text := (text "condition" v).map Header.tidy

/-- The tidied selector that is scored. -/
def selector (v : Value) : Except Error Text := (textOrNothing "selector" v).map Selector.tidy

/-- The specificity of a text. A list is taken for one of component values, and none of its items is
one, except that null ends it. -/
def specificity (v : Value) : Except Error Specificity :=
  if !v.isTruthy then .ok .zero
  else match v with
    | .text t => Selector.specificity t
    | .list (.null :: _) => .error (.selectorSyntax v.shown .noCompound none)
    | .list _ => .error .missingAttribute
    | .object _ => .error .missingAttribute
    | _ => .error .wrongType

/-- A list in place of the characters of a selector list: every item has to be a text, up to a comma
outside brackets or the end, where the list turns out not to be a text. -/
def splitItems (depth : Nat) : List Value → Error
  | [] => .missingAttribute
  | .text t :: rest =>
    if Text.contains "([".toList t then splitItems (depth + 1) rest
    else if Text.contains ")]".toList t then splitItems (depth - 1) rest
    else if t = [','] && depth = 0 then .missingAttribute
    else splitItems depth rest
  | _ :: _ => .wrongType

/-- The parts of a selector list. -/
def split : Value → Except Error (List Text)
  | .text t => .ok (Selector.split t)
  | .list items => .error (splitItems 0 items)
  | _ => .error .wrongType

/-- The header of an at-rule without the blanks around it. -/
def header (v : Value) : Except Error Text :=
  if !v.isTruthy then .ok []
  else match v with
    | .text t => .ok t.trim
    | _ => .error .missingAttribute

def headerWord? (v : Value) : Except Error (Option Text) := do
  Header.word? (← textOrNothing "condition" v)

def headerCondition? (v : Value) : Except Error (Option Text) := do
  Header.condition? (← textOrNothing "condition" v)

def ruleToken? (v : Value) : Except Error (Option Header.Token) := do
  Header.ruleToken? (← text "condition" v)

def headerTokens (v : Value) : Except Error (List Header.Token) := do
  Header.tokens (← text "condition" v)

def headerWeight (v : Value) : Except Error Nat := do
  Header.weight (← text "condition" v)

/-- The text of a style sheet. An empty list or object is taken for a sheet without component
values. -/
def sheet : Value → Except Error Text
  | .text t => .ok t
  | .list [] => .ok []
  | .object [] => .ok []
  | .list _ => .error .missingAttribute
  | .object _ => .error .missingAttribute
  | _ => .error .wrongType

end StyleScore.Intake
