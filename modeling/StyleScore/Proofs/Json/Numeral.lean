import StyleScore.Value.Json

/-!
Numbers in JSON text. `word?` reads a word that is no text: a number, with or without a point or an
exponent, or one of the words for other values. Every number that is written is such a word
(`word?_ofInt`, `word?_number`); a whole number is read as itself.
-/
namespace StyleScore

namespace Text

theorem isDigit_of_mem_ofNat {n : Nat} {c : Char} (member : c ∈ ofNat n) : c.isDigit = true :=
  Nat.isDigit_of_mem_toDigits (by decide) (by decide) member

theorem ofNat_ne_nil (n : Nat) : ofNat n ≠ [] := Nat.toDigits_ne_nil

/-- No number but zero is written with a zero in front. -/
theorem head?_ofNat {n : Nat} (positive : n ≠ 0) : (ofNat n).head? ≠ some '0' := by
  induction n using Nat.strongRecOn with
  | ind n ih =>
    rw [ofNat, Nat.toDigits_eq_if (by decide)]
    split
    · next small =>
      have digits : ∀ n < 10, n ≠ 0 → Nat.digitChar n ≠ '0' := by decide
      simpa using digits n small positive
    · next large =>
      have less : (Nat.toDigits 10 (n / 10)).head? ≠ some '0' := ih (n / 10) (by omega) (by omega)
      rw [List.head?_append]
      cases first : (Nat.toDigits 10 (n / 10)).head? with
      | none => exact absurd (List.head?_eq_none_iff.1 first) Nat.toDigits_ne_nil
      | some c => rwa [first] at less

theorem digitsValue_ofNat (n : Nat) : Binary64.digitsValue (ofNat n) = n := by
  have read : Nat.ofDigitChars 10 (Nat.toDigits 10 n) 0 = n :=
    Nat.ofDigitChars_toDigits (by decide) (by decide)
  rw [Nat.ofDigitChars_eq_foldl] at read
  simp only [Nat.mul_comm 10] at read
  exact read

end Text

namespace Json
open Text

/-- The first character is a digit, and no zero in front of another digit. -/
def startsWell : Text → Bool
  | '0' :: c :: _ => !c.isDigit
  | c :: _ => c.isDigit
  | [] => false

/-- A point is followed by a digit. -/
def fillsPoint : Text → Bool
  | '.' :: rest => rest.head?.any Char.isDigit
  | _ => true

/-- An unsigned number begins with a digit, has no zero in front of another digit and a digit behind
its point. -/
def isRegular (digits : Text) : Bool :=
  startsWell digits && fillsPoint (digits.dropWhile Char.isDigit)

/-- A number: whole if it has only digits. -/
def unsigned? (negative : Bool) (digits : Text) : Option Json :=
  if !isRegular digits then none
  else if digits.all Char.isDigit then
    let n : Int := Binary64.digitsValue digits
    some (.int (if negative then -n else n))
  else (Binary64.decimalParts? digits).map fun (m, e) => .float (Binary64.ofDecimal negative m e)

/-- A number with a minus sign or without. -/
def numeral? : Text → Option Json
  | '-' :: digits => unsigned? true digits
  | digits => unsigned? false digits

/-- The value of a word. -/
def word? (word : Text) : Option Json :=
  if word = "null".toList then some .null
  else if word = "true".toList then some (.bool true)
  else if word = "false".toList then some (.bool false)
  else if word = "NaN".toList then some (.float .nan)
  else if word = "Infinity".toList then some (.float (.infinite false))
  else if word = "-Infinity".toList then some (.float (.infinite true))
  else numeral? word

/-- A word that begins like a number is none of the others. -/
theorem word?_of_digit {digits : Text} (begins : digits.head?.any Char.isDigit = true) :
    word? digits = unsigned? false digits ∧ word? ('-' :: digits) = unsigned? true digits := by
  cases digits with
  | nil => cases begins
  | cons d rest =>
    have digit : d.isDigit = true := by simpa using begins
    have differs {c : Char} (other : c.isDigit = false) : d ≠ c := by
      rintro rfl
      rw [digit] at other
      cases other
    constructor
    · simp [word?, numeral?, differs]
    · simp [word?, numeral?, differs]

/-! ### Whole numbers -/

/-- The digits in front of a point: a zero, or digits that do not begin with one. -/
def IsWhole (digits : Text) : Prop :=
  digits = ['0'] ∨ (digits ≠ [] ∧ (∀ c ∈ digits, c.isDigit = true) ∧ digits.head? ≠ some '0')

theorem IsWhole.isDigit {digits : Text} (whole : IsWhole digits) {c : Char} (member : c ∈ digits) :
    c.isDigit = true := by
  rcases whole with rfl | ⟨-, all, -⟩
  · rw [List.mem_singleton.1 member]
    rfl
  · exact all c member

theorem isWhole_ofNat (n : Nat) : IsWhole (ofNat n) := by
  by_cases zero : n = 0
  · subst zero
    exact .inl rfl
  · exact .inr ⟨ofNat_ne_nil n, fun _ => isDigit_of_mem_ofNat, head?_ofNat zero⟩

theorem startsWell_append {digits more : Text} (whole : IsWhole digits)
    (apart : ∀ c ∈ more.head?, c.isDigit = false) : startsWell (digits ++ more) = true := by
  rcases whole with rfl | ⟨filled, all, other⟩
  · cases more with
    | nil => rfl
    | cons c rest =>
      have differs : c.isDigit = false := apart c rfl
      simp [startsWell, differs]
  · cases digits with
    | nil => exact absurd rfl filled
    | cons d rest =>
      have digit : d.isDigit = true := all d List.mem_cons_self
      have nonzero : d ≠ '0' := fun zero => other (congrArg some zero)
      rw [List.cons_append, startsWell, digit]
      intro _ _ zero
      exact absurd zero nonzero

theorem dropWhile_append {digits more : Text} (all : ∀ c ∈ digits, c.isDigit = true)
    (apart : ∀ c ∈ more.head?, c.isDigit = false) :
    (digits ++ more).takeWhile Char.isDigit = digits ∧
      (digits ++ more).dropWhile Char.isDigit = more := by
  rw [List.takeWhile_append_of_pos all, List.dropWhile_append_of_pos all]
  cases more with
  | nil => simp
  | cons c rest =>
    have differs : c.isDigit = false := apart c rfl
    simp [differs]

theorem isRegular_append {digits more : Text} (whole : IsWhole digits)
    (apart : ∀ c ∈ more.head?, c.isDigit = false) (filled : fillsPoint more = true) :
    isRegular (digits ++ more) = true := by
  rw [isRegular, startsWell_append whole apart, (dropWhile_append (fun _ => whole.isDigit) apart).2,
    filled]
  rfl

theorem unsigned?_ofNat (negative : Bool) (n : Nat) :
    unsigned? negative (ofNat n) = some (.int (if negative then -(n : Int) else n)) := by
  have regular : isRegular (ofNat n ++ []) = true :=
    isRegular_append (isWhole_ofNat n) (by simp) rfl
  have digits : (ofNat n).all Char.isDigit = true := by
    rw [List.all_eq_true]
    exact fun c => isDigit_of_mem_ofNat
  rw [List.append_nil] at regular
  simp [unsigned?, regular, digits, digitsValue_ofNat]

theorem IsWhole.head {digits : Text} (whole : IsWhole digits) (more : Text) :
    (digits ++ more).head?.any Char.isDigit = true := by
  cases digits with
  | nil => rcases whole with impossible | ⟨filled, -⟩ <;> contradiction
  | cons d rest => simpa using whole.isDigit List.mem_cons_self

/-- A whole number is read as itself. -/
theorem word?_ofInt (n : Int) : word? (ofInt n) = some (.int n) := by
  have begins (n : Nat) : (ofNat n).head?.any Char.isDigit = true := by
    rw [← List.append_nil (ofNat n)]
    exact (isWhole_ofNat n).head []
  cases n with
  | ofNat n =>
    rw [ofInt, (word?_of_digit (begins n)).1, unsigned?_ofNat]
    rfl
  | negSucc n =>
    rw [ofInt, (word?_of_digit (begins (n + 1))).2, unsigned?_ofNat]
    rfl

/-! ### Numbers with a point or an exponent -/

/-- Digits behind a point, or nothing. -/
def IsFraction (text : Text) : Prop :=
  text = [] ∨ ∃ decimals, decimals ≠ [] ∧ (∀ c ∈ decimals, c.isDigit = true) ∧
    text = '.' :: decimals

/-- A sign and digits behind the mark of an exponent, or nothing. -/
def IsPower (text : Text) : Prop :=
  text = [] ∨ ∃ sign digits, (sign = '+' ∨ sign = '-') ∧ digits ≠ [] ∧
    (∀ c ∈ digits, c.isDigit = true) ∧
    text = 'e' :: sign :: digits

/-- A number that is not written as a whole one. -/
def IsFractional (text : Text) : Prop :=
  ∃ whole fraction power, IsWhole whole ∧ IsFraction fraction ∧ IsPower power ∧
    fraction ++ power ≠ [] ∧
    text = whole ++ (fraction ++ power)

section Fractions

variable {text whole fraction power : Text}

theorem IsPower.apart (shape : IsPower power) : ∀ c ∈ power.head?, c.isDigit = false := by
  rcases shape with rfl | ⟨sign, digits, -, -, -, rfl⟩
  · simp
  · simp

theorem IsFraction.apart (shape : IsFraction fraction) (shapeToo : IsPower power) :
    ∀ c ∈ (fraction ++ power).head?, c.isDigit = false := by
  rcases shape with rfl | ⟨decimals, -, -, rfl⟩
  · exact shapeToo.apart
  · simp

theorem fillsPoint_append (shape : IsFraction fraction) (shapeToo : IsPower power) :
    fillsPoint (fraction ++ power) = true := by
  rcases shape with rfl | ⟨decimals, filled, digits, rfl⟩
  · rcases shapeToo with rfl | ⟨sign, digits, -, -, -, rfl⟩ <;> rfl
  · cases decimals with
    | nil => exact absurd rfl filled
    | cons d rest => simpa [fillsPoint] using digits d List.mem_cons_self

theorem decimalParts?_isSome (shape : IsWhole whole) (shapeToo : IsFraction fraction)
    (shapeThree : IsPower power) :
    (Binary64.decimalParts? (whole ++ (fraction ++ power))).isSome = true := by
  have front := dropWhile_append (fun _ => shape.isDigit) (shapeToo.apart shapeThree)
  have filled : whole ≠ [] := by
    rintro rfl
    rcases shape with impossible | ⟨filled, -⟩ <;> contradiction
  unfold Binary64.decimalParts?
  simp only [front.1, List.drop_left]
  rcases shapeToo with rfl | ⟨decimals, solid, digits, rfl⟩
  · rcases shapeThree with rfl | ⟨sign, power, signed, solid, digits, rfl⟩
    · simp [filled]
    · have all : power.all Char.isDigit = true := List.all_eq_true.2 digits
      rcases signed with rfl | rfl <;> simp [filled, solid, all]
  · have back := dropWhile_append digits shapeThree.apart
    simp only [List.cons_append, back.1, back.2]
    rcases shapeThree with rfl | ⟨sign, power, signed, solidToo, digitsToo, rfl⟩
    · simp [filled]
    · have all : power.all Char.isDigit = true := List.all_eq_true.2 digitsToo
      rcases signed with rfl | rfl <;> simp [filled, solidToo, all]

theorem IsFractional.unsigned? (shape : IsFractional text) (negative : Bool) :
    ∃ x, Json.unsigned? negative text = some (.float x) := by
  obtain ⟨whole, fraction, power, front, middle, back, longer, rfl⟩ := shape
  have regular := isRegular_append front (middle.apart back) (fillsPoint_append middle back)
  obtain ⟨parts, read⟩ := Option.isSome_iff_exists.1 (decimalParts?_isSome front middle back)
  have mixed : (whole ++ (fraction ++ power)).all Char.isDigit = false := by
    cases rest : fraction ++ power with
    | nil => exact absurd rest longer
    | cons c more =>
      have apart := middle.apart back c (by rw [rest]; rfl)
      simp [apart]
  exact ⟨_, by rw [Json.unsigned?, regular, mixed, read]; rfl⟩

end Fractions

end Json

namespace Binary64
open Json

/-- Digits as the shortest decimal has them: at least one, and the first is no zero. -/
def IsSolid (digits : Text) : Prop :=
  digits ≠ [] ∧ (∀ c ∈ digits, c.isDigit = true) ∧ digits.head? ≠ some '0'

section Layout

variable {digits : Text}

theorem dropZeros_cons {d : Char} (rest : Text) (nonzero : d ≠ '0') :
    dropZeros (d :: rest) = d :: dropZeros rest := by
  unfold dropZeros
  rw [List.reverse_cons, List.dropWhile_append]
  split
  · next gone =>
    rw [List.isEmpty_iff.1 gone]
    simp [nonzero]
  · rw [List.reverse_append]
    rfl

theorem mem_of_mem_dropZeros {c : Char} (member : c ∈ dropZeros digits) : c ∈ digits := by
  have sub := (List.dropWhile_sublist (· = '0') (l := digits.reverse)).subset
  rw [dropZeros, List.mem_reverse] at member
  exact List.mem_reverse.1 (sub member)

theorem isSolid_dropZeros {n : Nat} (positive : n ≠ 0) : IsSolid (dropZeros (Text.ofNat n)) := by
  have first := Text.head?_ofNat positive
  refine ⟨?_, fun c member => Text.isDigit_of_mem_ofNat (mem_of_mem_dropZeros member), ?_⟩
  all_goals
    cases digits : Text.ofNat n with
    | nil => exact absurd digits (Text.ofNat_ne_nil n)
    | cons d rest =>
      rw [digits] at first
      have nonzero : d ≠ '0' := fun zero => first (congrArg some zero)
      rw [dropZeros_cons rest nonzero]
      simp [nonzero]

theorem isDigit_zeros {n : Nat} {c : Char} (member : c ∈ List.replicate n '0') :
    c.isDigit = true := by
  rw [List.eq_of_mem_replicate member]
  rfl

theorem isFractional_positional (solid : IsSolid digits) (point : Int) :
    IsFractional (positional digits point) := by
  obtain ⟨filled, all, first⟩ := solid
  have zeros (n : Nat) : ∀ c ∈ List.replicate n '0', c.isDigit = true := fun _ => isDigit_zeros
  unfold positional
  split
  · refine ⟨['0'], '.' :: (List.replicate (-point).toNat '0' ++ digits), [], .inl rfl, ?_, .inl rfl,
      by simp, by simp⟩
    refine .inr ⟨_, by simp [filled], ?_, rfl⟩
    intro c member
    exact (List.mem_append.1 member).elim (zeros _ c) (all c)
  · next positive =>
    split
    · next short =>
      refine ⟨digits ++ List.replicate (point.toNat - digits.length) '0', ".0".toList, [],
        .inr ⟨?_, ?_, ?_⟩, .inr ⟨['0'], by simp, by simp, rfl⟩, .inl rfl, by simp, by simp⟩
      · simp [filled]
      · intro c member
        exact (List.mem_append.1 member).elim (all c) (zeros _ c)
      · cases digits with
        | nil => exact absurd rfl filled
        | cons d rest => simpa using first
    · next long =>
      obtain ⟨before, count⟩ : ∃ before, point.toNat = before + 1 := ⟨point.toNat - 1, by omega⟩
      refine ⟨digits.take point.toNat, '.' :: digits.drop point.toNat, [], .inr ⟨?_, ?_, ?_⟩,
        .inr ⟨_, ?_, ?_, rfl⟩, .inl rfl, by simp, by simp⟩
      · simp [count, filled]
      · exact fun c member => all c (List.mem_of_mem_take member)
      · cases digits with
        | nil => exact absurd rfl filled
        | cons d rest => simpa [count] using first
      · rw [ne_eq, List.drop_eq_nil_iff]
        omega
      · exact fun c member => all c (List.mem_of_mem_drop member)

theorem isFractional_scientific (solid : IsSolid digits) (power : Int) :
    IsFractional (scientific digits power) := by
  obtain ⟨filled, all, first⟩ := solid
  cases digits with
  | nil => exact absurd rfl filled
  | cons d rest =>
    have whole : IsWhole [d] :=
      .inr ⟨by simp, by simpa using all d List.mem_cons_self, by simpa using first⟩
    have exponent : IsPower ('e' :: (if power < 0 then '-' else '+') ::
        (List.replicate (2 - (Text.ofNat power.natAbs).length) '0' ++
          Text.ofNat power.natAbs)) := by
      refine .inr ⟨_, _, by split <;> simp, by simp [Text.ofNat_ne_nil], ?_, rfl⟩
      intro c member
      exact (List.mem_append.1 member).elim isDigit_zeros Text.isDigit_of_mem_ofNat
    cases rest with
    | nil => exact ⟨_, _, _, whole, .inl rfl, exponent, by simp, by simp [scientific]⟩
    | cons next rest =>
      have fraction : IsFraction ('.' :: next :: rest) :=
        .inr ⟨_, by simp, fun c member => all c (List.mem_cons_of_mem d member), rfl⟩
      exact ⟨_, _, _, whole, fraction, exponent, by simp, by simp [scientific]⟩

end Layout

/-- What reads back as a positive number is not zero. -/
theorem ne_zero_of_onGrid? {mantissa num den n : Nat} {exponent k : Int} (positive : mantissa ≠ 0)
    (found : onGrid? (.finite false mantissa exponent) num den k = some n) : n ≠ 0 := by
  rintro rfl
  have zero : ofRat? (((0 : Nat) : Rat) * powTen k) = some (zero false) := by
    have nothing : ((0 : Nat) : Rat) * powTen k = 0 := by simp
    rw [nothing]
    rfl
  have differs : ofRat? (((0 : Nat) : Rat) * powTen k) ≠
      some (.finite false mantissa exponent) := by
    rw [zero]
    intro same
    cases same
    exact positive rfl
  have chosen (good : Nat → Bool) (one other : Nat)
      (found : (if good one then some one else if good other then some other else none) = some 0) :
        good 0 = true := by
    split at found
    · next fine => rwa [Option.some.inj found] at fine
    · split at found
      · next fine => rwa [Option.some.inj found] at fine
      · cases found
  have back := chosen
    (fun n => ofRat? ((n : Rat) * powTen k) = some (.finite false mantissa exponent)) _ _ found
  exact differs (of_decide_eq_true back)

theorem searchGrid_cases {mantissa num den : Nat} {exponent lead : Int} (positive : mantissa ≠ 0)
    (tried left : Nat) :
    (searchGrid (.finite false mantissa exponent) num den lead tried left).1 ≠ 0 ∨
      searchGrid (.finite false mantissa exponent) num den lead tried left = (0, 0) := by
  induction left generalizing tried with
  | zero => exact .inr rfl
  | succ left ih =>
    rw [searchGrid]
    split
    · next found => exact .inl (ne_zero_of_onGrid? positive found)
    · exact ih (tried + 1)

theorem isFractional_positiveText {mantissa : Nat} (positive : mantissa ≠ 0) (exponent : Int) :
    IsFractional (positiveText mantissa exponent) := by
  unfold positiveText
  have found : (shortest mantissa exponent).1 ≠ 0 ∨ shortest mantissa exponent = (0, 0) :=
    searchGrid_cases positive 1 17
  rcases found with nonzero | zero
  · dsimp only
    split
    · exact isFractional_positional (isSolid_dropZeros nonzero) _
    · exact isFractional_scientific (isSolid_dropZeros nonzero) _
  · rw [zero]
    refine ⟨['0'], ".0".toList, [], .inl rfl, .inr ⟨['0'], by simp, by simp, rfl⟩, .inl rfl,
      by simp, by decide⟩

/-- The number that the text of a number is read as. -/
def reread (x : Binary64) : Binary64 :=
  match word? (number x) with
  | some (.float y) => y
  | _ => x

end Binary64

namespace Json

theorem isFractional_number {mantissa : Nat} {exponent : Int} :
    IsFractional
      (if mantissa = 0 then "0.0".toList else Binary64.positiveText mantissa exponent) := by
  split
  · exact ⟨['0'], ".0".toList, [], .inl rfl, .inr ⟨['0'], by simp, by simp, rfl⟩, .inl rfl,
      by simp, rfl⟩
  · next positive => exact Binary64.isFractional_positiveText positive exponent

/-- Every number that is written is read as a number. -/
theorem word?_number (x : Binary64) : word? (number x) = some (.float x.reread) := by
  have read : ∃ y, word? (number x) = some (.float y) := by
    cases x with
    | nan => exact ⟨_, rfl⟩
    | infinite negative => cases negative <;> exact ⟨_, rfl⟩
    | finite negative mantissa exponent =>
      have shape : IsFractional
          (if mantissa = 0 then "0.0".toList else Binary64.positiveText mantissa exponent) :=
        isFractional_number
      obtain ⟨y, value⟩ := shape.unsigned? negative
      refine ⟨y, ?_⟩
      obtain ⟨whole, fraction, power, front, -, -, -, written⟩ := shape
      have begins := front.head (fraction ++ power)
      rw [← written] at begins
      rw [← value, number, Binary64.textWith]
      cases negative with
      | false => exact (word?_of_digit begins).1
      | true => exact (word?_of_digit begins).2
  obtain ⟨y, read⟩ := read
  rw [Binary64.reread, read]

end Json
end StyleScore
