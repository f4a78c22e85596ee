import StyleScore.Web.Name.Fault

/-!
Labels in ASCII: the ASCII characters of a label come first, and after a hyphen digits to base 36
say which other characters stand where. Each number counts the steps from one such character to the
next, over code points and places together. Main definitions: `encode` and `decode`.
-/
namespace StyleScore.Web.Name

namespace Digits

def digit (n : Nat) : Char := Char.ofNat (if n < 26 then 0x61 + n else 0x16 + n)

/-- Digits are written in small letters and read in capitals. -/
def value? (c : Char) : Option Nat :=
  let n := c.toNat
  if 0x41 ≤ n && n ≤ 0x5A then some (n - 0x41)
  else if 0x30 ≤ n && n ≤ 0x39 then some (n - 0x16)
  else none

/-- A digit below the threshold at its place is the last one of its number. -/
def threshold (index bias : Nat) : Nat := max 1 (min 26 (36 * (index + 1) - bias))

theorem one_le_threshold (index bias : Nat) : 1 ≤ threshold index bias := Nat.le_max_left _ _

/-- Divides by 35 until at most 455 is left, and counts 36 for each time. -/
def damp (delta : Nat) : Nat × Nat :=
  if 455 < delta then
    let (rest, count) := damp (delta / 35)
    (rest, count + 36)
  else (delta, 0)
termination_by delta
decreasing_by exact Nat.div_lt_self (by omega) (by omega)

/-- The bias after a number, so that numbers of its size are written with few digits. -/
def adapt (delta : Nat) (isFirst : Bool) (size : Nat) : Nat :=
  let delta := if isFirst then delta / 700 else delta / 2
  let (rest, count) := damp (delta + delta / size)
  count + 36 * rest / (rest + 38)

/-- The digits of a number from place `index` on, the lowest one first. -/
def write (bias index n : Nat) : Text :=
  if n < threshold index bias then [digit n]
  else
    let base := 36 - threshold index bias
    digit (threshold index bias + (n - threshold index bias) % base) ::
      write bias (index + 1) ((n - threshold index bias) / base)
termination_by n
decreasing_by
  have h := one_le_threshold index bias
  calc (n - threshold index bias) / (36 - threshold index bias)
      ≤ n - threshold index bias := Nat.div_le_self _ _
    _ < n := by omega

/-- What is written so far, the steps since the last character, the bias for the next number and
how many characters there are by now. -/
structure Progress where
  digits : Text
  steps : Nat
  bias : Nat
  size : Nat
  deriving DecidableEq, Repr

/-- Passes one character while those with the code point `code` are written. The first number comes
when only the `ascii` characters are there. -/
def Progress.pass (ascii code : Nat) (state : Progress) (c : Char) : Progress :=
  if c.toNat < code then { state with steps := state.steps + 1 }
  else if c.toNat = code then
    ⟨state.digits ++ write state.bias 0 state.steps, 0,
      adapt state.steps (state.size = ascii) (state.size + 1), state.size + 1⟩
  else state

/-- Writes the characters of the code points, which rise, after the code points below `next`. -/
def writeAll (text : Text) (ascii next : Nat) (state : Progress) : List Nat → Progress
  | [] => state
  | code :: codes =>
    let before := { state with steps := state.steps + (code - next) * (state.size + 1) }
    let after := text.foldl (Progress.pass ascii code) before
    writeAll text ascii (code + 1) { after with steps := after.steps + 1 } codes

/-- Puts a number where it belongs in a rising list, unless it is there. -/
def insertRising (n : Nat) : List Nat → List Nat
  | [] => [n]
  | m :: rest =>
    if n < m then n :: m :: rest else if n = m then m :: rest else m :: insertRising n rest

def encode (text : Text) : Text :=
  let ascii := text.filter (·.val < 0x80)
  let codes := ((text.filter (0x80 ≤ ·.val)).map Char.toNat).foldr insertRising []
  let digits := (writeAll text ascii.length 0x80 ⟨[], 0, 72, ascii.length⟩ codes).digits
  if ascii = [] then digits else ascii ++ '-' :: digits

/-- One number, of which `sum` is read and the next digit counts `weight` times, and what
follows. -/
def read (bias index weight sum : Nat) : Text → Except Fault (Nat × Text)
  | [] => .error .digitsMissing
  | c :: rest =>
    match value? c with
    | none => .error (.badDigit c)
    | some n =>
      let sum := sum + n * weight
      if n < threshold index bias then .ok (sum, rest)
      else read bias (index + 1) (weight * (36 - threshold index bias)) sum rest

/-- Puts characters into `codes` as at most `numbers` numbers say. The next one stands at `next` or
later, or has a code point above `code`. -/
def readAll (numbers : Nat) (codes : List Nat) (code next bias : Nat) (isFirst : Bool)
    (digits : Text) :
    Except Fault (List Nat) :=
  match numbers, digits with
  | numbers + 1, _ :: _ => do
    let (steps, rest) ← read bias 0 1 0 digits
    let size := codes.length + 1
    let code := code + (next + steps) / size
    let index := (next + steps) % size
    if 0x10FFFF < code then throw (.noCodePoint code)
    readAll numbers (codes.take index ++ code :: codes.drop index) code (index + 1)
      (adapt steps isFirst size) false rest
  | _, _ => return codes

/-- The code points that an encoded label stands for. Surrogates may be among them. -/
def decode (label : Text) : Except Fault (List Nat) :=
  let (digits, ascii) := label.reverse.span (· ≠ '-')
  let digits := digits.reverse.map Char.toUpper
  readAll digits.length (ascii.tail.reverse.map Char.toNat) 0x80 0 72 true digits

end Digits

end StyleScore.Web.Name
