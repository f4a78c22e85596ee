import StyleScore.Decimal.Shortest
import StyleScore.Text.Quoted
import StyleScore.Value.Basic

/-!
Values as they are shown in messages and on pages, and which of them can be shown.
-/
namespace StyleScore.Value

/-- A byte between the quotes `mark`. -/
def showByte (mark : Char) (byte : UInt8) : Text :=
  let c := Char.ofNat byte.toNat
  if c = mark || c = '\\' then ['\\', c]
  else if c = '\n' then ['\\', 'n']
  else if c = '\r' then ['\\', 'r']
  else if c = '\t' then ['\\', 't']
  else if ' ' ≤ c && c ≤ '~' then [c]
  else "\\x".toList ++ Text.hex 2 byte.toNat

def showBytes (data : List UInt8) : Text :=
  let mark := Text.quoteMark (data.map fun byte => Char.ofNat byte.toNat)
  'b' :: mark :: data.flatMap (showByte mark) ++ [mark]

mutual

/-- A value as code: texts are quoted. -/
def shown : Value → Text
  | null => "None".toList
  | bool b => if b then "True".toList else "False".toList
  | int n => Text.ofInt n
  | float x => x.text
  | text t => Text.quoted t
  | list items => '[' :: Text.joinWith ", ".toList (shownItems items) ++ [']']
  | tuple [item] => '(' :: shown item ++ ",)".toList
  | tuple items => '(' :: Text.joinWith ", ".toList (shownItems items) ++ [')']
  | set [] => "set()".toList
  | set items => '\x7b' :: Text.joinWith ", ".toList (shownItems items) ++ ['\x7d']
  | frozenSet [] => "frozenset()".toList
  | frozenSet items =>
    "frozenset(\x7b".toList ++ Text.joinWith ", ".toList (shownItems items) ++ "\x7d)".toList
  | object fields => '\x7b' :: Text.joinWith ", ".toList (shownFields fields) ++ ['\x7d']
  | mapping fields =>
    "mappingproxy(\x7b".toList ++ Text.joinWith ", ".toList (shownFields fields) ++ "\x7d)".toList
  | bytes data => showBytes data
  | token kind value isConditional isRange =>
    "AtRuleToken(kind=".toList ++ shown kind ++ ", value=".toList ++ shown value ++
      ", is_conditional=".toList ++ shown isConditional ++ ", is_range=".toList ++
        shown isRange ++ [')']
  | weighted selectorText complexity =>
    "WeightedRule(rule=None, selector_text=".toList ++ shown selectorText ++
      ", selector_complexity=".toList ++ shown complexity ++ [')']
  | style selectorText => "StyleRule(".toList ++ shown selectorText ++ [')']

def shownItems : List Value → List Text
  | [] => []
  | item :: items => shown item :: shownItems items

def shownFields : List (Text × Value) → List Text
  | [] => []
  | (name, value) :: fields =>
    (Text.quoted name ++ ": ".toList ++ shown value) :: shownFields fields

end

mutual

/-- No whole number in the value has too many digits. -/
def isPrintable : Value → Bool
  | int n => !Text.isOverlong n
  | list items | tuple items | set items | frozenSet items => printableItems items
  | object fields | mapping fields => printableFields fields
  | token kind value isConditional isRange =>
    isPrintable kind && isPrintable value && isPrintable isConditional && isPrintable isRange
  | weighted selectorText complexity => isPrintable selectorText && isPrintable complexity
  | style selectorText => isPrintable selectorText
  | null | bool _ | float _ | text _ | bytes _ => true

def printableItems : List Value → Bool
  | [] => true
  | item :: items => isPrintable item && printableItems items

def printableFields : List (Text × Value) → Bool
  | [] => true
  | (_, value) :: fields => isPrintable value && printableFields fields

end

/-- A value as it is printed: texts stand for themselves. -/
def printed : Value → Text
  | text t => t
  | v => shown v

end StyleScore.Value
