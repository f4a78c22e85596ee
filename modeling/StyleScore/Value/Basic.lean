import StyleScore.Decimal.Binary64

/-!
Values of any type, as they are handed to the library and stand in report data.
-/
namespace StyleScore

/-- A mapping differs from an object only in its type; objects and mappings keep the order of their
fields. The last three are a token of a header, a weighted rule and a style rule. -/
inductive Value where
  | null
  | bool (b : Bool)
  | int (n : Int)
  | float (x : Binary64)
  | text (t : Text)
  | list (items : List Value)
  | tuple (items : List Value)
  | set (items : List Value)
  | frozenSet (items : List Value)
  | object (fields : List (Text × Value))
  | mapping (fields : List (Text × Value))
  | bytes (data : List UInt8)
  | token (kind value isConditional isRange : Value)
  | weighted (selectorText complexity : Value)
  | style (selectorText : Value)
  deriving Inhabited, Repr

namespace Value

/-- The values that count as something rather than nothing. -/
def isTruthy : Value → Bool
  | null => false
  | bool b => b
  | int n => n ≠ 0
  | float x => !x.isZero
  | text t => t ≠ []
  | list items => !items.isEmpty
  | tuple items => !items.isEmpty
  | set items => !items.isEmpty
  | frozenSet items => !items.isEmpty
  | object fields => !fields.isEmpty
  | mapping fields => !fields.isEmpty
  | bytes data => data ≠ []
  | token _ _ _ _ => true
  | weighted _ _ => true
  | style _ => true

def typeName : Value → Text
  | null => "NoneType".toList
  | bool _ => "bool".toList
  | int _ => "int".toList
  | float _ => "float".toList
  | text _ => "str".toList
  | list _ => "list".toList
  | tuple _ => "tuple".toList
  | set _ => "set".toList
  | frozenSet _ => "frozenset".toList
  | object _ => "dict".toList
  | mapping _ => "mappingproxy".toList
  | bytes _ => "bytes".toList
  | token _ _ _ _ => "AtRuleToken".toList
  | weighted _ _ => "WeightedRule".toList
  | style _ => "StyleRule".toList

/-- A mapping as a plain object; every other value as it is. -/
def plain : Value → Value
  | mapping fields => object fields
  | v => v

def ofText? : Option Text → Value
  | none => null
  | some t => text t

end Value
end StyleScore
