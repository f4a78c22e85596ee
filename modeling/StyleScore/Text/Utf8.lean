import StyleScore.Text.Basic

/-!
UTF-8: writing code points as bytes, reading them back, and what is said of bytes that are not
UTF-8.
-/
namespace StyleScore.Text.Utf8

inductive Reason where
  | badStart | badContinuation | endOfData
  deriving DecidableEq, Repr

/-- The bytes `first` to `last` begin no character: they are the longest valid beginning of a
sequence that breaks off, or one byte that begins none. -/
structure Fault where
  first : Nat
  last : Nat
  lead : UInt8
  reason : Reason
  deriving DecidableEq, Repr

/-- A sequence under way: where it began, what it has said so far, how many bytes it still needs
and what the next one may be. -/
structure Pending where
  start : Nat
  lead : UInt8
  code : Nat
  owed : Nat
  low : Nat
  high : Nat
  deriving DecidableEq, Repr

/-- A byte that begins a sequence of two to four. -/
def lead? (start : Nat) (byte : UInt8) : Option Pending :=
  let b := byte.toNat
  if 0xC2 ≤ b && b ≤ 0xDF then some ⟨start, byte, b - 0xC0, 1, 0x80, 0xBF⟩
  else if b = 0xE0 then some ⟨start, byte, 0, 2, 0xA0, 0xBF⟩
  else if b = 0xED then some ⟨start, byte, 0xD, 2, 0x80, 0x9F⟩
  else if 0xE1 ≤ b && b ≤ 0xEF then some ⟨start, byte, b - 0xE0, 2, 0x80, 0xBF⟩
  else if b = 0xF0 then some ⟨start, byte, 0, 3, 0x90, 0xBF⟩
  else if 0xF1 ≤ b && b ≤ 0xF3 then some ⟨start, byte, b - 0xF0, 3, 0x80, 0xBF⟩
  else if b = 0xF4 then some ⟨start, byte, 4, 3, 0x80, 0x8F⟩
  else none

/-- Reads on from byte number `pos`, inside a sequence or between two. -/
def decodeFrom (pos : Nat) : Option Pending → List UInt8 → Except Fault Text
  | none, [] => .ok []
  | some p, [] => .error ⟨p.start, pos - 1, p.lead, .endOfData⟩
  | none, byte :: rest =>
    if byte < 0x80 then
      (decodeFrom (pos + 1) none rest).map (Char.ofNat byte.toNat :: ·)
    else match lead? pos byte with
      | none => .error ⟨pos, pos, byte, .badStart⟩
      | some p => decodeFrom (pos + 1) (some p) rest
  | some p, byte :: rest =>
    let b := byte.toNat
    if p.low ≤ b && b ≤ p.high then
      let code := p.code * 64 + (b - 0x80)
      if p.owed ≤ 1 then
        (decodeFrom (pos + 1) none rest).map (Char.ofNat code :: ·)
      else
        decodeFrom (pos + 1)
          (some { p with code, owed := p.owed - 1, low := 0x80, high := 0xBF }) rest
    else .error ⟨p.start, pos - 1, p.lead, .badContinuation⟩

def decode (bytes : List UInt8) : Except Fault Text := decodeFrom 0 none bytes

/-- Reads on after each of at most `faults` faults and puts in its place what `new` makes of its
bytes. -/
def mendWithin (new : List UInt8 → Text) (faults : Nat) (bytes : List UInt8) : Text :=
  match decode bytes, faults with
  | .ok text, _ => text
  | .error _, 0 => []
  | .error fault, faults + 1 =>
    (decode (bytes.take fault.first)).toOption.getD [] ++
      new ((bytes.take (fault.last + 1)).drop fault.first) ++
        mendWithin new faults (bytes.drop (fault.last + 1))

/-- The text of any bytes, with something new for those that are not UTF-8. There are no more faults
than bytes. -/
def mend (new : List UInt8 → Text) (bytes : List UInt8) : Text := mendWithin new bytes.length bytes

/-- The text of any bytes: those that are not UTF-8 stand as replacement characters. -/
def repair (bytes : List UInt8) : Text := mend (fun _ => ['\uFFFD']) bytes

def encodeChar (c : Char) : List UInt8 :=
  let n := c.toNat
  if n < 0x80 then [n.toUInt8]
  else if n < 0x800 then [(0xC0 + n / 64).toUInt8, (0x80 + n % 64).toUInt8]
  else if n < 0x10000 then
    [(0xE0 + n / 4096).toUInt8, (0x80 + n / 64 % 64).toUInt8, (0x80 + n % 64).toUInt8]
  else
    [(0xF0 + n / 262144).toUInt8, (0x80 + n / 4096 % 64).toUInt8, (0x80 + n / 64 % 64).toUInt8,
      (0x80 + n % 64).toUInt8]

def encode (text : Text) : List UInt8 := text.flatMap encodeChar

end Utf8

/-- Line ends as line feeds: a carriage return goes, with the line feed after it if there is one. -/
def plainLineEnds : Text → Text
  | [] => []
  | '\r' :: '\n' :: rest => '\n' :: plainLineEnds rest
  | '\r' :: rest => '\n' :: plainLineEnds rest
  | c :: rest => c :: plainLineEnds rest

end StyleScore.Text
