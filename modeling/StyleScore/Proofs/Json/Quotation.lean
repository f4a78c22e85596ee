import StyleScore.Proofs.Text.Utf8
import StyleScore.Value.Json

/-!
Quoted text in JSON. `takeQuoted` reads up to the closing quote and knows every escape that JSON
has; it undoes what `quoted` does (`takeQuoted_escaped`). A character beyond the first plane is read
from its two halves.
-/
namespace StyleScore.Json

/-- The number of a hexadecimal digit. -/
def hexDigit? (c : Char) : Option Nat :=
  if c.isDigit then some (c.toNat - 48)
  else if 'a' ≤ c && c ≤ 'f' then some (c.toNat - 87)
  else if 'A' ≤ c && c ≤ 'F' then some (c.toNat - 55)
  else none

/-- The number of four hexadecimal digits, and what follows them. -/
def takeUnit : Text → Option (Nat × Text)
  | a :: b :: c :: d :: rest => do
    let a ← hexDigit? a
    let b ← hexDigit? b
    let c ← hexDigit? c
    let d ← hexDigit? d
    return (((a * 16 + b) * 16 + c) * 16 + d, rest)
  | _ => none

/-- The second half of a character beyond the first plane, and what follows it. -/
def takeLowHalf : Text → Option (Nat × Text)
  | '\\' :: 'u' :: rest => (takeUnit rest).filter fun (low, _) => 0xDC00 ≤ low && low ≤ 0xDFFF
  | _ => none

/-- The character beyond the first plane that two halves make. -/
def joinHalves (high low : Nat) : Char :=
  Char.ofNat (0x10000 + (high - 0xD800) * 0x400 + (low - 0xDC00))

/-- A character by its number or by those of its halves. -/
def takeNumbered (text : Text) : Option (Char × Text) :=
  match takeUnit text with
  | none => none
  | some (high, rest) =>
    if high < 0xD800 || 0xDFFF < high then some (Char.ofNat high, rest)
    else if high < 0xDC00 then
      (takeLowHalf rest).map fun (low, rest) => (joinHalves high low, rest)
    else none

/-- The characters that have an escape of one letter. -/
def shortEscape? (c : Char) : Option Char :=
  if c = '"' || c = '\\' || c = '/' then some c
  else if c = 'n' then some '\n'
  else if c = 'r' then some '\r'
  else if c = 't' then some '\t'
  else if c = 'b' then some '\x08'
  else if c = 'f' then some '\x0c'
  else none

/-- One character inside quotes: an escaped one, or one that needs no escape. -/
def takeChar : Text → Option (Char × Text)
  | [] => none
  | '\\' :: 'u' :: rest => takeNumbered rest
  | '\\' :: c :: rest => (shortEscape? c).map (·, rest)
  | c :: rest => if c < ' ' || c = '"' || c = '\\' then none else some (c, rest)

theorem length_takeUnit {text rest : Text} {n : Nat} (taken : takeUnit text = some (n, rest)) :
    rest.length < text.length := by
  unfold takeUnit at taken
  split at taken
  · simp only [bind, Option.bind_eq_some_iff] at taken
    obtain ⟨_, -, _, -, _, -, _, -, same⟩ := taken
    cases same
    simp only [List.length_cons]
    omega
  · cases taken

theorem length_takeLowHalf {text rest : Text} {n : Nat}
    (taken : takeLowHalf text = some (n, rest)) :
    rest.length < text.length := by
  unfold takeLowHalf at taken
  split at taken
  · have := length_takeUnit (Option.filter_eq_some_iff.1 taken).1
    simp only [List.length_cons]
    omega
  · cases taken

theorem length_takeNumbered {text rest : Text} {c : Char}
    (taken : takeNumbered text = some (c, rest)) :
    rest.length < text.length := by
  unfold takeNumbered at taken
  split at taken
  · cases taken
  · next high middle first =>
    have shorter := length_takeUnit first
    split at taken
    · cases taken
      exact shorter
    · split at taken
      · obtain ⟨⟨low, last⟩, second, same⟩ := Option.map_eq_some_iff.1 taken
        have := length_takeLowHalf second
        rw [← (Prod.mk.inj same).2]
        omega
      · cases taken

theorem length_takeChar {text rest : Text} {c : Char} (taken : takeChar text = some (c, rest)) :
    rest.length < text.length := by
  unfold takeChar at taken
  split at taken
  · cases taken
  · have := length_takeNumbered taken
    simp only [List.length_cons]
    omega
  · obtain ⟨_, -, same⟩ := Option.map_eq_some_iff.1 taken
    cases same
    simp only [List.length_cons]
    omega
  · split at taken
    · cases taken
    · cases taken
      simp

/-- The text up to the closing quote, and what follows that. -/
def takeQuoted (text : Text) : Option (Text × Text) :=
  if text.head? = some '"' then some ([], text.tail)
  else match _taken : takeChar text with
    | none => none
    | some (c, rest) => (takeQuoted rest).map fun (quote, rest) => (c :: quote, rest)
termination_by text.length
decreasing_by exact length_takeChar _taken

theorem takeQuoted_of_takeChar {text rest : Text} {c : Char}
    (taken : takeChar text = some (c, rest)) :
    takeQuoted text = (takeQuoted rest).map fun (quote, rest) => (c :: quote, rest) := by
  have inside : text.head? ≠ some '"' := by
    intro begins
    cases text with
    | nil => cases begins
    | cons first more =>
      obtain rfl : first = '"' := Option.some.inj begins
      cases taken
  rw [takeQuoted, if_neg inside]
  split
  · next nothing => cases nothing.symm.trans taken
  · next other more same =>
    cases same.symm.trans taken
    rfl

/-- A number of four hexadecimal digits is read as itself. -/
theorem takeUnit_hex {n : Nat} (small : n < 0x10000) (rest : Text) :
    takeUnit (Text.hex 4 n ++ rest) = some (n, rest) := by
  have digit : ∀ d < 16, hexDigit? (Nat.digitChar d) = some d := by decide
  have value : ((n / 16 / 16 / 16 % 16 * 16 + n / 16 / 16 % 16) * 16 + n / 16 % 16) * 16 + n % 16 =
      n := by omega
  simp only [Text.hex, List.nil_append, List.cons_append, takeUnit,
    digit _ (Nat.mod_lt _ (by decide : 0 < 16)), bind, Option.bind_some, value]
  rfl

theorem takeNumbered_hex {c : Char} (small : c.toNat < 0x10000) (rest : Text) :
    takeNumbered (Text.hex 4 c.toNat ++ rest) = some (c, rest) := by
  have whole := Text.Utf8.toNat_bounds c
  have plain : (c.toNat < 0xD800 || 0xDFFF < c.toNat) = true := by
    rcases whole with low | ⟨high, -⟩
    · simp [low]
    · simp [high]
  simp only [takeNumbered, takeUnit_hex small, plain, if_true, Char.ofNat_toNat]

theorem joinHalves_halves {c : Char} (large : 0x10000 ≤ c.toNat) :
    joinHalves (0xD800 + (c.toNat - 0x10000) / 0x400) (0xDC00 + (c.toNat - 0x10000) % 0x400) =
      c := by
  have value : 0x10000 + (0xD800 + (c.toNat - 0x10000) / 0x400 - 0xD800) * 0x400 +
      (0xDC00 + (c.toNat - 0x10000) % 0x400 - 0xDC00) = c.toNat := by omega
  rw [joinHalves, value, Char.ofNat_toNat]

theorem takeLowHalf_hex {low : Nat} (within : 0xDC00 ≤ low ∧ low ≤ 0xDFFF) (rest : Text) :
    takeLowHalf ('\\' :: 'u' :: (Text.hex 4 low ++ rest)) = some (low, rest) := by
  rw [takeLowHalf, takeUnit_hex (by omega)]
  simp [Option.filter, within]

theorem takeNumbered_halves {high low : Nat} (first : 0xD800 ≤ high ∧ high < 0xDC00)
    (second : 0xDC00 ≤ low ∧ low ≤ 0xDFFF) (rest : Text) :
    takeNumbered (Text.hex 4 high ++ ('\\' :: 'u' :: (Text.hex 4 low ++ rest))) =
      some (joinHalves high low, rest) := by
  have half : (decide (high < 0xD800) || decide (0xDFFF < high)) = false := by
    rw [decide_eq_false (by omega), decide_eq_false (by omega)]
    rfl
  rw [takeNumbered, takeUnit_hex (by omega)]
  dsimp only
  rw [half, if_neg Bool.false_ne_true, if_pos first.2, takeLowHalf_hex second]
  rfl

theorem hexEscape_eq (n : Nat) : hexEscape n = '\\' :: 'u' :: Text.hex 4 n := rfl

theorem takeChar_number (rest : Text) : takeChar ('\\' :: 'u' :: rest) = takeNumbered rest := rfl

theorem takeChar_halves {c : Char} (large : 0x10000 ≤ c.toNat) (rest : Text) :
    takeChar (hexEscape (0xD800 + (c.toNat - 0x10000) / 0x400) ++
      hexEscape (0xDC00 + (c.toNat - 0x10000) % 0x400) ++
      rest) = some (c, rest) := by
  have whole := Text.Utf8.toNat_bounds c
  have same := joinHalves_halves large
  generalize first : 0xD800 + (c.toNat - 0x10000) / 0x400 = high at same
  generalize second : 0xDC00 + (c.toNat - 0x10000) % 0x400 = low at same
  have read := takeNumbered_halves (show 0xD800 ≤ high ∧ high < 0xDC00 by omega)
    (show 0xDC00 ≤ low ∧ low ≤ 0xDFFF by omega) rest
  rw [same] at read
  rw [hexEscape_eq, hexEscape_eq, List.append_assoc, List.cons_append, List.cons_append,
    List.cons_append, List.cons_append, takeChar_number, read]

/-- A character that needs no escape. -/
theorem takeChar_plain {c : Char} (quote : c ≠ '"') (slash : c ≠ '\\') (visible : ¬ c < ' ')
    (rest : Text) :
    takeChar (c :: rest) = some (c, rest) := by
  rw [takeChar]
  · simp [quote, slash, visible]
  · rintro _ rfl
    exact absurd rfl slash
  · rintro _ _ rfl
    exact absurd rfl slash

/-- A character is read back from its form inside quotes. -/
theorem takeChar_escapeChar (c : Char) (rest : Text) :
    takeChar (escapeChar c ++ rest) = some (c, rest) := by
  by_cases quote : c = '"'
  · subst quote
    rfl
  by_cases slash : c = '\\'
  · subst slash
    rfl
  by_cases feed : c = '\n'
  · subst feed
    rfl
  by_cases back : c = '\r'
  · subst back
    rfl
  by_cases tab : c = '\t'
  · subst tab
    rfl
  by_cases space : c = '\x08'
  · subst space
    rfl
  by_cases page : c = '\x0c'
  · subst page
    rfl
  rw [escapeChar, if_neg quote, if_neg slash, if_neg feed, if_neg back, if_neg tab, if_neg space,
    if_neg page]
  split
  · next plain =>
    have within : ' ' ≤ c := of_decide_eq_true (Bool.and_eq_true_iff.1 plain).1
    exact takeChar_plain quote slash (Char.not_lt.2 within) rest
  · split
    · next small => rw [hexEscape_eq, List.cons_append, List.cons_append, takeChar_number,
        takeNumbered_hex small]
    · next large => exact takeChar_halves (Nat.not_lt.1 large) rest

/-- What is written between quotes is read back. -/
theorem takeQuoted_escaped (text rest : Text) :
    takeQuoted (text.flatMap escapeChar ++ '"' :: rest) = some (text, rest) := by
  induction text with
  | nil =>
    rw [takeQuoted]
    rfl
  | cons c text ih =>
    rw [List.flatMap_cons, List.append_assoc, takeQuoted_of_takeChar (takeChar_escapeChar c _), ih]
    rfl

end StyleScore.Json
