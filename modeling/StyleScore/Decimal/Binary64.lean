import StyleScore.Text.Basic

/-!
Numbers of 53 binary digits: the nearest one to a rational, with ties to the even neighbour, and
the exact value of each.
-/
namespace StyleScore

/-- A finite number is its `mantissa` times two to the `exponent`. Its mantissa is below 2^53, and
at least 2^52 unless the exponent is the least, −1074. -/
inductive Binary64 where
  | finite (negative : Bool) (mantissa : Nat) (exponent : Int)
  | infinite (negative : Bool)
  | nan
  deriving DecidableEq, Repr

namespace Binary64

/-- The integer nearest to a quotient, of two the even one. -/
def roundDiv (num den : Nat) : Nat :=
  let q := num / den
  let r := num % den
  if 2 * r < den then q else if den < 2 * r then q + 1 else if q % 2 = 0 then q else q + 1

/-- Ten to an integer power. -/
def powTen (e : Int) : Rat :=
  if 0 ≤ e then mkRat (Nat.pow 10 e.toNat) 1 else mkRat 1 (Nat.pow 10 (-e).toNat)

/-- Two to an integer power. -/
def powTwo (e : Int) : Rat :=
  if 0 ≤ e then mkRat (Nat.pow 2 e.toNat) 1 else mkRat 1 (Nat.pow 2 (-e).toNat)

def zero (negative : Bool) : Binary64 := .finite negative 0 (-1074)

/-- The nearest integer to `num / den` over two to the `e`. -/
def scaled (num den : Nat) (e : Int) : Nat :=
  if 0 ≤ e then roundDiv num (den * Nat.pow 2 e.toNat) else roundDiv
    (num * Nat.pow 2 (-e).toNat) den

/-- The exponent at which the quotient has 53 binary digits before the point, or the least one. -/
def exponentFor (num den : Nat) : Int :=
  let e : Int := (num.log2 : Int) - den.log2 - 53
  let whole := if 0 ≤ e then num / (den * Nat.pow 2 e.toNat) else num * Nat.pow 2 (-e).toNat / den
  max (if Nat.pow 2 53 ≤ whole then e + 1 else e) (-1074)

/-- The number nearest to a positive quotient; too large ones have none. -/
def ofQuotient? (negative : Bool) (num den : Nat) : Option Binary64 :=
  if num = 0 then some (zero negative)
  else
    let e := exponentFor num den
    let m := scaled num den e
    let (m, e) := if m = Nat.pow 2 53 then (Nat.pow 2 52, e + 1) else (m, e)
    if 971 < e then none else some (.finite negative m e)

/-- The number nearest to a rational; too large ones have none. -/
def ofRat? (q : Rat) : Option Binary64 := ofQuotient? (q.num < 0) q.num.natAbs q.den

/-- The exact value of a finite number. -/
def value? : Binary64 → Option Rat
  | finite negative m e => some ((if negative then -1 else 1) * (m : Rat) * powTwo e)
  | infinite _ => none
  | nan => none

def isNegative : Binary64 → Bool
  | finite negative _ _ => negative
  | infinite negative => negative
  | nan => false

def isZero : Binary64 → Bool
  | finite _ m _ => m = 0
  | _ => false

/-- The number nearest to a rational, where one too large is infinite and zero takes the given
sign. -/
def nearest (q : Rat) (zeroSign : Bool) : Binary64 :=
  if q = 0 then zero zeroSign else (ofRat? q).getD (.infinite (q.num < 0))

/-- A thousand times the number. -/
def thousandfold : Binary64 → Binary64
  | finite negative m e =>
  nearest ((if negative then -1 else 1) * (m : Rat) * powTwo e * 1000) negative
  | x => x

def sub : Binary64 → Binary64 → Binary64
  | nan, _ => nan
  | _, nan => nan
  | infinite a, infinite b => if a = b then nan else infinite a
  | infinite a, _ => infinite a
  | _, infinite b => infinite (!b)
  | finite a m e, finite b n f =>
    nearest
      ((if a then -1 else 1) * (m : Rat) * powTwo e - (if b then -1 else 1) * (n : Rat) * powTwo f)
      (m = 0 && a && n = 0 && !b)

/-- The number nearest to the multiple of 1/100 that is nearest to the exact value. -/
def toHundredths : Binary64 → Binary64
  | finite negative m e =>
    let q := (m : Rat) * powTwo e * 100
    let n := roundDiv q.num.natAbs q.den
    nearest ((if negative then -1 else 1) * (n : Rat) / 100) negative
  | x => x

/-- The digits of the nearest integer, with a sign where the number has one. -/
def wholeText : Binary64 → Text
  | finite negative m e =>
    let q := (m : Rat) * powTwo e
    (if negative then ['-'] else []) ++ Text.ofNat (roundDiv q.num.natAbs q.den)
  | infinite negative => (if negative then ['-'] else []) ++ "inf".toList
  | nan => "nan".toList

/-- The decimal digits of a numeral, from the left. -/
def digitsValue (digits : Text) : Nat := digits.foldl (fun n c => n * 10 + (c.toNat - 48)) 0

/-- An unsigned decimal: its mantissa read without the point, and the power of ten it is to be
multiplied by. -/
def decimalParts? (text : Text) : Option (Nat × Int) :=
  let whole := text.takeWhile Char.isDigit
  let rest := text.drop whole.length
  let (decimals, rest) :=
    match rest with
    | '.' :: rest => (rest.takeWhile Char.isDigit, rest.dropWhile Char.isDigit)
    | rest => ([], rest)
  if whole ++ decimals = [] then none
  else
    let mantissa := digitsValue (whole ++ decimals)
    match rest with
    | [] => some (mantissa, -(decimals.length : Int))
    | e :: rest =>
      if e = 'e' || e = 'E' then
        let (minus, digits) :=
          match rest with
          | '-' :: digits => (true, digits)
          | '+' :: digits => (false, digits)
          | digits => (false, digits)
        if digits ≠ [] && digits.all Char.isDigit then
          let exponent : Int := digitsValue digits
          some (mantissa, (if minus then -exponent else exponent) - decimals.length)
        else none
      else none

/-- The number nearest to a mantissa times a power of ten. Exponents far outside the range need not
be computed. -/
def ofDecimal (negative : Bool) (mantissa : Nat) (exponent : Int) : Binary64 :=
  if mantissa = 0 then zero negative
  else
    let magnitude := exponent + (Nat.toDigits 10 mantissa).length
    if 310 < magnitude then .infinite negative
    else if magnitude < -330 then zero negative
    else nearest ((if negative then -1 else 1) * (mantissa : Rat) * powTen exponent) negative

/-- A numeral: a decimal with an optional sign, or a word for one of the numbers that have no
digits. -/
def parse? (text : Text) : Option Binary64 :=
  let (negative, text) :=
    match text with
    | '-' :: rest => (true, rest)
    | '+' :: rest => (false, rest)
    | rest => (false, rest)
  let word := text.map Char.toLower
  if word = "inf".toList || word = "infinity".toList then some (.infinite negative)
  else if word = "nan".toList then some .nan
  else (decimalParts? text).map fun (mantissa, exponent) => ofDecimal negative mantissa exponent

end Binary64
end StyleScore
