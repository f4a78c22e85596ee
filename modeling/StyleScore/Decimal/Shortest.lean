import StyleScore.Decimal.Binary64

/-!
The shortest decimal that reads back as a number, and how it is laid out: positional for numbers
from 10^-4 up to 10^16, with an exponent otherwise.
-/
namespace StyleScore.Binary64

/-- The power of ten of the first digit of a positive quotient. -/
def leadingPower (num den : Nat) : Int :=
  let p : Int := ((Nat.toDigits 10 num).length : Int) - (Nat.toDigits 10 den).length
  let reached := if 0 ≤ p then den * Nat.pow 10 p.toNat ≤ num else den ≤ num * Nat.pow 10 (-p).toNat
  if reached then p else p - 1

/-- The quotient in units of ten to the `k`, as numerator and denominator. -/
def inUnits (num den : Nat) (k : Int) : Nat × Nat :=
  if 0 ≤ k then (num, den * Nat.pow 10 k.toNat) else (num * Nat.pow 10 (-k).toNat, den)

/-- The multiple of ten to the `k` that reads back as `x` and is nearest to it; of two equally near
the even one. -/
def onGrid? (x : Binary64) (num den : Nat) (k : Int) : Option Nat :=
  let (a, b) := inUnits num den k
  let below := a / b
  let readsBack (n : Nat) : Bool := ofRat? ((n : Rat) * powTen k) = some x
  let nearest := roundDiv a b
  let other := if nearest = below then below + 1 else below
  if readsBack nearest then some nearest else if readsBack other then some other else none

/-- The first of the grids with `tried`, `tried + 1`, ... digits that holds a decimal which reads
back. -/
def searchGrid (x : Binary64) (num den : Nat) (lead : Int) : (tried left : Nat) → Nat × Int
  | _, 0 => (0, 0)
  | tried, left + 1 =>
    let k := lead - tried + 1
    match onGrid? x num den k with
    | some n => (n, k)
    | none => searchGrid x num den lead (tried + 1) left

/-- Digits and power of ten of the shortest decimal that reads back as a positive finite number.
Seventeen digits are always enough. -/
def shortest (mantissa : Nat) (exponent : Int) : Nat × Int :=
  let q := (mantissa : Rat) * powTwo exponent
  searchGrid (.finite false mantissa exponent) q.num.natAbs q.den
    (leadingPower q.num.natAbs q.den) 1 17

/-- The digits without the zeros at their end. -/
def dropZeros (digits : Text) : Text := (digits.reverse.dropWhile (· = '0')).reverse

/-- Digits with the point after the first `point` of them. -/
def positional (digits : Text) (point : Int) : Text :=
  if point ≤ 0 then "0.".toList ++ List.replicate (-point).toNat '0' ++ digits
  else if digits.length ≤ point then
    digits ++ List.replicate (point.toNat - digits.length) '0' ++ ".0".toList
  else digits.take point.toNat ++ '.' :: digits.drop point.toNat

/-- Digits with the point after the first of them and an exponent of two digits or more. -/
def scientific (digits : Text) (power : Int) : Text :=
  let fraction :=
    match digits.drop 1 with
    | [] => []
    | rest => '.' :: rest
  let size := Text.ofNat power.natAbs
  digits.take 1 ++ fraction ++ ['e', if power < 0 then '-' else '+'] ++
    List.replicate (2 - size.length) '0' ++ size

/-- The shortest decimal of a positive finite number. -/
def positiveText (mantissa : Nat) (exponent : Int) : Text :=
  let (n, k) := shortest mantissa exponent
  let digits := Text.ofNat n
  let point := k + digits.length
  let digits := dropZeros digits
  if -4 < point && point ≤ 16 then positional digits point else scientific digits (point - 1)

/-- The text of a number, with the words of the caller for infinity and for what is no number. -/
def textWith (infinity notANumber : Text) : Binary64 → Text
  | finite negative m e =>
    (if negative then ['-'] else []) ++ (if m = 0 then "0.0".toList else positiveText m e)
  | infinite negative => (if negative then ['-'] else []) ++ infinity
  | nan => notANumber

/-- The text of a number by itself. -/
def text (x : Binary64) : Text := textWith "inf".toList "nan".toList x

end StyleScore.Binary64
