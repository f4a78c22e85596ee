import StyleScore.Error
import StyleScore.Value.Basic

/-!
Values as numbers: their order, the greatest of them and their mean.
-/
namespace StyleScore

/-- Truth values count as zero and one. -/
inductive Number where
  | whole (n : Int)
  | real (x : Binary64)
  deriving DecidableEq, Repr

namespace Number

/-- Exact comparison; what is no number is not less than anything. -/
def lt : Number → Number → Bool
  | real .nan, _ => false
  | _, real .nan => false
  | real (.infinite a), real (.infinite b) => a && !b
  | real (.infinite a), _ => a
  | _, real (.infinite b) => !b
  | whole m, whole n => m < n
  | whole m, real x => x.value?.elim false fun q => (m : Rat) < q
  | real x, whole n => x.value?.elim false fun q => q < (n : Rat)
  | real x, real y => x.value?.elim false fun p => y.value?.elim false fun q => p < q

/-- Exact equality; what is no number differs from itself. -/
def same (a b : Number) : Bool :=
  match a, b with
  | real .nan, _ => false
  | _, real .nan => false
  | a, b => !lt a b && !lt b a

/-- The exact value of a finite number. -/
def value? : Number → Option Rat
  | whole n => some n
  | real x => x.value?

end Number

namespace Value

def number? : Value → Option Number
  | bool b => some (.whole (if b then 1 else 0))
  | int n => some (.whole n)
  | float x => some (.real x)
  | _ => none

mutual

/-- Equality of values: numbers by value, lists and tuples item by item. -/
def same : Value → Value → Bool
  | null, null => true
  | text s, text t => s = t
  | bytes s, bytes t => s = t
  | list s, list t => sameItems s t
  | tuple s, tuple t => sameItems s t
  | a, b =>
    match a.number?, b.number? with
    | some m, some n => m.same n
    | _, _ => false

def sameItems : List Value → List Value → Bool
  | [], [] => true
  | a :: s, b :: t => same a b && sameItems s t
  | _, _ => false

end

mutual

/-- Whether the first value comes after the second. Only numbers, texts, lists and tuples of one
kind can be compared. -/
def after : Value → Value → Except Error Bool
  | text s, text t => .ok (Text.lt t s)
  | list s, list t => afterItems s t
  | tuple s, tuple t => afterItems s t
  | a, b =>
    match a.number?, b.number? with
    | some m, some n => .ok (n.lt m)
    | _, _ => .error .wrongType

/-- The first items that differ decide; else the longer list comes after. -/
def afterItems : List Value → List Value → Except Error Bool
  | [], _ => .ok false
  | _ :: _, [] => .ok true
  | a :: s, b :: t => if same a b then afterItems s t else after a b

end

/-- The first of the greatest values after `current`. -/
def greatestFrom (current : Value) : List Value → Except Error Value
  | [] => .ok current
  | v :: values => do
    if ← v.after current then greatestFrom v values else greatestFrom current values

/-- The greatest value; zero if there is none. -/
def greatest : List Value → Except Error Value
  | [] => .ok (int 0)
  | v :: values => greatestFrom v values

/-- Numbers of values, all of which have to be some. -/
def numbers : List Value → Except Error (List Number)
  | [] => .ok []
  | v :: values =>
    match v.number? with
    | none => .error .wrongType
    | some n => (numbers values).map (n :: ·)

/-- The sum of numbers that are not all finite. -/
def boundlessSum (numbers : List Number) : Binary64 :=
  if .real .nan ∈ numbers then .nan
  else if .real (.infinite false) ∈ numbers && .real (.infinite true) ∈ numbers then .nan
  else .infinite (.real (.infinite true) ∈ numbers)

def isWhole : Number → Bool
  | .whole _ => true
  | .real _ => false

/-- The exact mean of numbers. It is a whole number when all of them are whole and it is one, else
the nearest binary number, if there is one near enough. -/
def meanOf (numbers : List Number) : Except Error Value :=
  if numbers.any fun n => n.value?.isNone then .ok (float (boundlessSum numbers))
  else
    let sum := (numbers.filterMap Number.value?).foldl (fun (a b : Rat) => a + b) 0
    let mean := sum / (numbers.length : Rat)
    if numbers.all isWhole && mean.den = 1 then .ok (int mean.num)
    else if mean = 0 then .ok (float (.zero false))
    else match Binary64.ofRat? mean with
      | some x => .ok (float x)
      | none => .error .overflow

/-- A number with two decimals; whole numbers stay. -/
def toHundredths : Value → Value
  | float x => float x.toHundredths
  | v => v

/-- The mean with two decimals; zero if there are no values. -/
def mean (values : List Value) : Except Error Value :=
  if values.isEmpty then .ok (int 0)
  else do
    let mean ← meanOf (← numbers values)
    return mean.toHundredths

/-- The number of members of a value that has any. -/
def length : Value → Except Error Nat
  | text t => .ok t.length
  | list items => .ok items.length
  | tuple items => .ok items.length
  | set items => .ok items.length
  | frozenSet items => .ok items.length
  | object fields => .ok fields.length
  | mapping fields => .ok fields.length
  | bytes data => .ok data.length
  | _ => .error .wrongType

end Value
end StyleScore
