import StyleScore.Error
import StyleScore.Value.Basic
import StyleScore.Decimal.Shortest

/-!
Values as JSON text. `Value.toJson` says which values have a JSON form and which form that is: whole
numbers with too many digits have none. `Json.indented` and `Json.compact` write a form in ASCII.
Values may nest to any depth here; how much of the stack writing them takes is not modelled.
-/
namespace StyleScore

inductive Json where
  | null
  | bool (b : Bool)
  | int (n : Int)
  | float (x : Binary64)
  | text (t : Text)
  | array (items : List Json)
  | object (fields : List (Text × Json))
  deriving Repr

namespace Json

def hexEscape (n : Nat) : Text := "\\u".toList ++ Text.hex 4 n

/-- A character inside quotes. Beyond the first plane it is written as two halves. -/
def escapeChar (c : Char) : Text :=
  if c = '"' then "\\\"".toList
  else if c = '\\' then "\\\\".toList
  else if c = '\n' then "\\n".toList
  else if c = '\r' then "\\r".toList
  else if c = '\t' then "\\t".toList
  else if c = '\x08' then "\\b".toList
  else if c = '\x0c' then "\\f".toList
  else if ' ' ≤ c && c ≤ '~' then [c]
  else if c.toNat < 0x10000 then hexEscape c.toNat
  else hexEscape (0xD800 + (c.toNat - 0x10000) / 0x400) ++
    hexEscape (0xDC00 + (c.toNat - 0x10000) % 0x400)

def quoted (t : Text) : Text := '"' :: t.flatMap escapeChar ++ ['"']

def number (x : Binary64) : Text := x.textWith "Infinity".toList "NaN".toList

/-- A new line that is indented by two spaces for each level. -/
def newLine (level : Nat) : Text := '\n' :: List.replicate (2 * level) ' '

mutual

/-- One member a line, two spaces deeper than its container. -/
def indentedAt (level : Nat) : Json → Text
  | null => "null".toList
  | bool b => if b then "true".toList else "false".toList
  | int n => Text.ofInt n
  | float x => number x
  | text t => quoted t
  | array [] => "[]".toList
  | array (item :: items) =>
    '[' :: newLine (level + 1) ++ indentedAt (level + 1) item ++ indentedItems (level + 1) items ++
      newLine level ++ [']']
  | object [] => "\x7b\x7d".toList
  | object ((name, value) :: fields) =>
    '\x7b' :: newLine (level + 1) ++ quoted name ++ ": ".toList ++ indentedAt (level + 1) value ++
      indentedFields (level + 1) fields ++ newLine level ++ ['\x7d']

def indentedItems (level : Nat) : List Json → Text
  | [] => []
  | item :: items => ',' :: newLine level ++ indentedAt level item ++ indentedItems level items

def indentedFields (level : Nat) : List (Text × Json) → Text
  | [] => []
  | (name, value) :: fields =>
    ',' :: newLine level ++ quoted name ++ ": ".toList ++ indentedAt level value ++
      indentedFields level fields

end

def indented (j : Json) : Text := indentedAt 0 j

/-- A field before the first one whose name is not smaller. -/
def insertField (field : Text × Json) : List (Text × Json) → List (Text × Json)
  | [] => [field]
  | other :: fields =>
    if Text.lt other.1 field.1 then other :: insertField field fields else field :: other :: fields

mutual

/-- The same value with the fields of every object in the order of their names. -/
def sorted : Json → Json
  | array items => array (sortedItems items)
  | object fields => object (sortedFields fields)
  | null => null
  | bool b => bool b
  | int n => int n
  | float x => float x
  | text t => text t

def sortedItems : List Json → List Json
  | [] => []
  | item :: items => sorted item :: sortedItems items

def sortedFields : List (Text × Json) → List (Text × Json)
  | [] => []
  | (name, value) :: fields => insertField (name, sorted value) (sortedFields fields)

end

mutual

/-- No blanks and no line ends. -/
def compact : Json → Text
  | null => "null".toList
  | bool b => if b then "true".toList else "false".toList
  | int n => Text.ofInt n
  | float x => number x
  | text t => quoted t
  | array [] => "[]".toList
  | array (item :: items) => '[' :: compact item ++ compactItems items ++ [']']
  | object [] => "\x7b\x7d".toList
  | object ((name, value) :: fields) =>
    '\x7b' :: quoted name ++ ':' :: compact value ++ compactFields fields ++ ['\x7d']

def compactItems : List Json → Text
  | [] => []
  | item :: items => ',' :: compact item ++ compactItems items

def compactFields : List (Text × Json) → Text
  | [] => []
  | (name, value) :: fields => ',' :: quoted name ++ ':' :: compact value ++ compactFields fields

end

end Json

namespace Value

/-- A field that is left out when its value is null. -/
def optionalField (name : String) (value : Value) (form : Json) : List (Text × Json) :=
  match value with
  | null => []
  | _ => [(name.toList, form)]

mutual

/-- The JSON form of a value. Tuples and sets are arrays, mappings are objects, tokens and weighted
rules are the objects of their fields. Bytes and style rules have none; they stand for all objects
that JSON does not know. -/
def toJson : Value → Except Error Json
  | null => .ok .null
  | bool b => .ok (.bool b)
  | int n => if Text.isOverlong n then .error .overlongInteger else .ok (.int n)
  | float x => .ok (.float x)
  | text t => .ok (.text t)
  | list items => (itemsToJson items).map .array
  | tuple items => (itemsToJson items).map .array
  | set items => (itemsToJson items).map .array
  | frozenSet items => (itemsToJson items).map .array
  | object fields => (fieldsToJson fields).map .object
  | mapping fields => (fieldsToJson fields).map .object
  | bytes _ => .error (.notSerialisable "bytes".toList)
  | token kind value isConditional isRange => do
    let kindForm ← toJson kind
    let valueForm ← toJson value
    let conditionalForm ← toJson isConditional
    let rangeForm ← toJson isRange
    return .object ([("type".toList, kindForm), ("value".toList, valueForm)] ++
      optionalField "isConditional" isConditional conditionalForm ++
      optionalField "isRange" isRange rangeForm)
  | weighted selectorText complexity => do
    let textForm ← toJson selectorText
    let complexityForm ← toJson complexity
    return .object [("selectorText".toList, textForm),
      ("selectorComplexity".toList, complexityForm)]
  | style _ => .error (.notSerialisable "StyleRule".toList)

def itemsToJson : List Value → Except Error (List Json)
  | [] => .ok []
  | item :: items => do
    let form ← toJson item
    let forms ← itemsToJson items
    return form :: forms

def fieldsToJson : List (Text × Value) → Except Error (List (Text × Json))
  | [] => .ok []
  | (name, value) :: fields => do
    let form ← toJson value
    let forms ← fieldsToJson fields
    return (name, form) :: forms

end

/-- The indented JSON text of a value. -/
def jsonText (v : Value) : Except Error Text := v.toJson.map Json.indented

end Value
end StyleScore
