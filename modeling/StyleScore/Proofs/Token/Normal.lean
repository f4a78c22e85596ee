import Mathlib.Data.List.TakeWhile
import StyleScore.Text.Utf8
import StyleScore.Tree.Rule

/-!
What scanning takes alike, and what it refuses. Line ends that are written in different ways make no
difference to a style sheet (`ofText_plainLineEnds`), and a text of too many digits is one number
that is not read (`ofText_digits`).
-/
namespace StyleScore

namespace Scan

/-- Only a carriage return looks at what follows. -/
theorem normalise_cons {c : Char} (rest : Text) (other : c ≠ '\r') :
    normalise (c :: rest) = (if c = '\x00' then '�' else if c = '\x0c' then '\n' else c) ::
      normalise rest := by
  rw [normalise]
  · simp [other]
  · intro _ same
    exact absurd same other

/-- Line ends that are line feeds already are the same text for the scan. -/
theorem normalise_plainLineEnds (text : Text) :
    normalise (Text.plainLineEnds text) = normalise text := by
  fun_induction Text.plainLineEnds text with
  | case1 => rfl
  | case2 rest ih =>
    rw [normalise_cons _ (by decide), ih, normalise]
    rfl
  | case3 rest alone ih =>
    rw [normalise_cons _ (by decide), ih, normalise]
    · rfl
    · intro more _ same
      exact alone more same
  | case4 c rest _ other ih => rw [normalise_cons _ other, normalise_cons _ other, ih]

theorem ne_of_isDigit {c other : Char} (digit : c.isDigit = true)
    (differs : other.isDigit = false) : c ≠ other := by
  rintro rfl
  rw [digit] at differs
  cases differs

theorem normalise_of_digits {digits : Text} (plain : ∀ c ∈ digits, c.isDigit = true) :
    normalise digits = digits := by
  induction digits with
  | nil => rfl
  | cons c rest ih =>
    obtain ⟨digit, later⟩ := List.forall_mem_cons.1 plain
    rw [normalise_cons rest (ne_of_isDigit digit rfl), ih later, if_neg (ne_of_isDigit digit rfl),
      if_neg (ne_of_isDigit digit rfl)]

theorem takeNumber_of_digits {digits : Text} (plain : ∀ c ∈ digits, c.isDigit = true)
    (filled : digits ≠ []) :
    takeNumber digits = some (digits, []) := by
  have whole : digits.takeWhile Char.isDigit = digits := List.takeWhile_eq_self_iff.2 plain
  have unsigned : takeUnsigned digits = some (digits, []) := by
    have mantissa_eq : mantissa digits = digits := by
      unfold mantissa
      simp only [whole, List.drop_length]
    simp [takeUnsigned, mantissa_eq, filled, exponent]
  cases digits with
  | nil => exact absurd rfl filled
  | cons c rest =>
    have digit : c.isDigit = true := plain c List.mem_cons_self
    have plus : c ≠ '+' := ne_of_isDigit digit rfl
    have minus : c ≠ '-' := ne_of_isDigit digit rfl
    simp [takeNumber, plus, minus, unsigned]

/-- A text of digits is one number. -/
theorem scan_of_digits {digits : Text} (plain : ∀ c ∈ digits, c.isDigit = true)
    (filled : digits ≠ []) :
    scan digits = [(.start, .token (.number digits))] := by
  have number := takeNumber_of_digits plain filled
  cases digits with
  | nil => exact absurd rfl filled
  | cons c rest =>
    have digit : c.isDigit = true := plain c List.mem_cons_self
    have space : isSpace c = false := by
      simp [isSpace, ne_of_isDigit digit]
    have low : 48 ≤ c.toNat ∧ c.toNat ≤ 57 := by
      simpa [Char.isDigit, UInt32.le_iff_toNat_le] using digit
    have range : (c = 'u' || c = 'U') = false := by
      simp [ne_of_isDigit digit]
    have minus : c ≠ '-' := ne_of_isDigit digit rfl
    have ident : startsIdent (c :: rest) = false := by
      have letter : isNameStart c = false := by
        unfold isNameStart
        delta Char.isAlpha Char.isUpper Char.isLower
        simp [UInt32.le_iff_toNat_le, UInt32.lt_iff_toNat_lt, ne_of_isDigit digit]
        omega
      have escape : startsEscape (c :: rest) = false := by
        simp [startsEscape, ne_of_isDigit digit]
      simp [startsIdent, letter, escape]
    have one : scanOne c rest = ([.token (.number (c :: rest))], []) := by
      simp only [scanOne, space, range, minus, ident, number]
      rfl
    rw [scan, normalise_of_digits plain, scanFrom, one, scanFrom]
    rfl

end Scan

/-- The rules of a style sheet do not depend on how its lines end. -/
theorem Rule.ofText_plainLineEnds (text : Text) :
    Rule.ofText (Text.plainLineEnds text) = Rule.ofText text := by
  rw [Rule.ofText, Item.ofText, scan, Scan.normalise_plainLineEnds]
  rfl

/-- A text cannot be read exactly if it has a number that is too long. -/
theorem Rule.ofText_eq_error_iff (text : Text) :
    (∃ e, Rule.ofText text = .error e) ↔ ∃ digits, overlongNumeral? (scan text) = some digits := by
  unfold Rule.ofText Item.ofText
  dsimp only
  cases overlongNumeral? (scan text) with
  | none => simp [Except.map]
  | some digits => simp [Except.map]

/-- A text of more digits than a number may have is no style sheet. -/
theorem Rule.ofText_digits {digits : Text} (plain : ∀ c ∈ digits, c.isDigit = true)
    (long : Text.digitLimit < digits.length) :
    Rule.ofText digits = .error (.overlongNumeral digits.length) := by
  have filled : digits ≠ [] := by
    rintro rfl
    simp at long
  have all : digits.filter Char.isDigit = digits := List.filter_eq_self.2 plain
  have overlong : overlongNumeral? (scan digits) = some digits.length := by
    rw [Scan.scan_of_digits plain filled]
    simp only [overlongNumeral?, List.findSome?_cons, Token.numeralLength?, all, long]
    simp +contextual [plain]
  rw [Rule.ofText, Item.ofText, overlong]
  rfl

/-- One digit more than a number may have. -/
def manyDigits : Text := List.replicate 4301 '1'

theorem manyDigits_ne_nil : manyDigits ≠ [] := by
  apply List.ne_nil_of_length_pos
  rw [manyDigits, List.length_replicate]
  omega

theorem Rule.ofText_manyDigits : Rule.ofText manyDigits = .error (.overlongNumeral 4301) := by
  have long : manyDigits.length = 4301 := List.length_replicate
  have plain : ∀ c ∈ manyDigits, c.isDigit = true := by
    intro c member
    rw [List.eq_of_mem_replicate member]
    rfl
  rw [Rule.ofText_digits plain (by rw [long]; decide), long]

end StyleScore
