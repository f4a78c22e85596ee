import StyleScore.Text.Utf8

/-!
Reading UTF-8 undoes writing it (`decode_encode`). A character takes one to four bytes; the first
says how many follow and what the second may be, so that no character has two forms and none is half
of a pair.
-/
namespace StyleScore.Text.Utf8

section Bytes

variable {pos : Nat} {pending : Pending} {byte : UInt8} {rest : List UInt8}

theorem toNat_toUInt8 {n : Nat} (small : n < 256) : n.toUInt8.toNat = n := by
  rw [Nat.toUInt8_eq, UInt8.toNat_ofNat', Nat.mod_eq_of_lt small]

theorem lead?_two (low : 0xC2 ≤ byte.toNat) (high : byte.toNat ≤ 0xDF) :
    lead? pos byte = some ⟨pos, byte, byte.toNat - 0xC0, 1, 0x80, 0xBF⟩ := by
  simp [lead?, low, high]

theorem lead?_three (low : 0xE0 ≤ byte.toNat) (high : byte.toNat ≤ 0xEF) :
    lead? pos byte = some ⟨pos, byte, byte.toNat - 0xE0, 2,
      if byte.toNat = 0xE0 then 0xA0 else 0x80, if byte.toNat = 0xED then 0x9F else 0xBF⟩ := by
  have not_two : ¬(0xC2 ≤ byte.toNat ∧ byte.toNat ≤ 0xDF) := by omega
  by_cases first : byte.toNat = 0xE0
  · simp [lead?, first]
  · by_cases last : byte.toNat = 0xED
    · simp [lead?, last]
    · have between : 0xE1 ≤ byte.toNat := by omega
      simp [lead?, not_two, first, last, between, high]

theorem lead?_four (low : 0xF0 ≤ byte.toNat) (high : byte.toNat ≤ 0xF4) :
    lead? pos byte = some ⟨pos, byte, byte.toNat - 0xF0, 3,
      if byte.toNat = 0xF0 then 0x90 else 0x80, if byte.toNat = 0xF4 then 0x8F else 0xBF⟩ := by
  have not_two : ¬(0xC2 ≤ byte.toNat ∧ byte.toNat ≤ 0xDF) := by omega
  have not_three : ¬(0xE1 ≤ byte.toNat ∧ byte.toNat ≤ 0xEF) := by omega
  by_cases first : byte.toNat = 0xF0
  · simp [lead?, first]
  · by_cases last : byte.toNat = 0xF4
    · simp [lead?, last]
    · have between : 0xF1 ≤ byte.toNat ∧ byte.toNat ≤ 0xF3 := by omega
      have others : byte.toNat ≠ 0xE0 ∧ byte.toNat ≠ 0xED := by omega
      simp [lead?, not_two, not_three, first, last, between, others]

theorem decodeFrom_lead (high : 0x80 ≤ byte.toNat) (lead : lead? pos byte = some pending) :
    decodeFrom pos none (byte :: rest) = decodeFrom (pos + 1) (some pending) rest := by
  have beyond : ¬ byte < 0x80 := by
    rw [UInt8.lt_iff_toNat_lt]
    exact Nat.not_lt.2 high
  rw [decodeFrom, if_neg beyond, lead]

/-- A byte in the middle of a character. -/
theorem decodeFrom_more (low : pending.low ≤ byte.toNat) (high : byte.toNat ≤ pending.high)
    (owed : 1 < pending.owed) :
    decodeFrom pos (some pending) (byte :: rest) =
      decodeFrom (pos + 1) (some { pending with
        code := pending.code * 64 + (byte.toNat - 0x80), owed := pending.owed - 1, low :=
        0x80, high := 0xBF }) rest := by
  rw [decodeFrom]
  simp [low, high, Nat.not_le.2 owed]

/-- The last byte of a character. -/
theorem decodeFrom_last (low : pending.low ≤ byte.toNat) (high : byte.toNat ≤ pending.high)
    (owed : pending.owed ≤ 1) :
    decodeFrom pos (some pending) (byte :: rest) =
      (decodeFrom (pos + 1) none rest).map (Char.ofNat (pending.code * 64 +
        (byte.toNat - 0x80)) :: ·) := by
  rw [decodeFrom]
  simp [low, high, owed]

end Bytes

/-- The numbers of characters leave out the halves of pairs. -/
theorem toNat_bounds (c : Char) : c.toNat < 0xD800 ∨ (0xDFFF < c.toNat ∧ c.toNat < 0x110000) := by
  have valid := c.valid
  simpa [UInt32.isValidChar, Nat.isValidChar] using valid

section Characters

variable (pos : Nat) (rest : List UInt8) {n : Nat}

theorem decodeFrom_one (small : n < 0x80) :
    decodeFrom pos none (n.toUInt8 :: rest) =
      (decodeFrom (pos + 1) none rest).map (Char.ofNat n :: ·) := by
  have byte : n.toUInt8.toNat = n := toNat_toUInt8 (by omega)
  have low : n.toUInt8 < 0x80 := by
    rw [UInt8.lt_iff_toNat_lt, byte]
    exact small
  rw [decodeFrom, if_pos low, byte]

theorem decodeFrom_two (large : 0x80 ≤ n) (small : n < 0x800) :
    decodeFrom pos none ((0xC0 + n / 64).toUInt8 :: (0x80 + n % 64).toUInt8 :: rest) =
      (decodeFrom (pos + 2) none rest).map (Char.ofNat n :: ·) := by
  have first : (0xC0 + n / 64).toUInt8.toNat = 0xC0 + n / 64 := toNat_toUInt8 (by omega)
  have second : (0x80 + n % 64).toUInt8.toNat = 0x80 + n % 64 := toNat_toUInt8 (by omega)
  have code : (0xC0 + n / 64 - 0xC0) * 64 + (0x80 + n % 64 - 0x80) = n := by omega
  rw [decodeFrom_lead (by omega) (lead?_two (by omega) (by omega)),
    decodeFrom_last (by simp only; omega)
    (by simp only; omega) (by simp only; omega), first, second, code]

theorem decodeFrom_three (large : 0x800 ≤ n) (small : n < 0x10000)
    (whole : n < 0xD800 ∨ 0xDFFF < n) :
    decodeFrom pos none
        ((0xE0 + n / 4096).toUInt8 :: (0x80 + n / 64 % 64).toUInt8 ::
          (0x80 + n % 64).toUInt8 :: rest) =
      (decodeFrom (pos + 3) none rest).map (Char.ofNat n :: ·) := by
  have first : (0xE0 + n / 4096).toUInt8.toNat = 0xE0 + n / 4096 := toNat_toUInt8 (by omega)
  have second : (0x80 + n / 64 % 64).toUInt8.toNat = 0x80 + n / 64 % 64 := toNat_toUInt8 (by omega)
  have third : (0x80 + n % 64).toUInt8.toNat = 0x80 + n % 64 := toNat_toUInt8 (by omega)
  have code : ((0xE0 + n / 4096 - 0xE0) * 64 + (0x80 + n / 64 % 64 - 0x80)) * 64 +
      (0x80 + n % 64 - 0x80) = n := by
    omega
  rw [decodeFrom_lead (by omega) (lead?_three (by omega) (by omega)),
    decodeFrom_more (by simp only; split <;> omega) (by simp only; split <;> omega)
    (by simp only; omega),
    decodeFrom_last (by simp only; omega) (by simp only; omega) (by simp only; omega), first,
    second, third, code]

theorem decodeFrom_four (large : 0x10000 ≤ n) (small : n < 0x110000) :
    decodeFrom pos none
        ((0xF0 + n / 262144).toUInt8 :: (0x80 + n / 4096 % 64).toUInt8 ::
          (0x80 + n / 64 % 64).toUInt8 ::
          (0x80 + n % 64).toUInt8 :: rest) =
      (decodeFrom (pos + 4) none rest).map (Char.ofNat n :: ·) := by
  have first : (0xF0 + n / 262144).toUInt8.toNat = 0xF0 + n / 262144 := toNat_toUInt8 (by omega)
  have second : (0x80 + n / 4096 % 64).toUInt8.toNat = 0x80 + n / 4096 % 64 :=
    toNat_toUInt8 (by omega)
  have third : (0x80 + n / 64 % 64).toUInt8.toNat = 0x80 + n / 64 % 64 := toNat_toUInt8 (by omega)
  have fourth : (0x80 + n % 64).toUInt8.toNat = 0x80 + n % 64 := toNat_toUInt8 (by omega)
  have code : (((0xF0 + n / 262144 - 0xF0) * 64 + (0x80 + n / 4096 % 64 - 0x80)) * 64 +
      (0x80 + n / 64 % 64 - 0x80)) * 64 + (0x80 + n % 64 - 0x80) = n := by
    omega
  rw [decodeFrom_lead (by omega) (lead?_four (by omega) (by omega)),
    decodeFrom_more (by simp only; split <;> omega) (by simp only; split <;> omega)
    (by simp only; omega),
    decodeFrom_more (by simp only; omega) (by simp only; omega) (by simp only; omega),
    decodeFrom_last (by simp only; omega) (by simp only; omega) (by simp only; omega),
    first, second, third, fourth, code]

end Characters

/-- Reading what was written of a character gives the character back. -/
theorem decodeFrom_encodeChar (pos : Nat) (c : Char) (rest : List UInt8) :
    ∃ next, decodeFrom pos none (encodeChar c ++ rest) =
      (decodeFrom next none rest).map (c :: ·) := by
  have bounds := toNat_bounds c
  have same : Char.ofNat c.toNat = c := Char.ofNat_toNat c
  unfold encodeChar
  dsimp only
  split
  · next small =>
    have read := decodeFrom_one pos rest small
    rw [same] at read
    exact ⟨_, read⟩
  · split
    · next large small =>
      have read := decodeFrom_two pos rest (Nat.not_lt.1 large) small
      rw [same] at read
      exact ⟨_, read⟩
    · split
      · next large small =>
        have read :=
          decodeFrom_three pos rest (Nat.not_lt.1 large) small (bounds.imp_right And.left)
        rw [same] at read
        exact ⟨_, read⟩
      · next large =>
        have read := decodeFrom_four pos rest (Nat.not_lt.1 large) (by omega)
        rw [same] at read
        exact ⟨_, read⟩

theorem encode_append (text more : Text) : encode (text ++ more) = encode text ++ encode more :=
  List.flatMap_append

/-- Reading what was written gives the text back. -/
theorem decode_encode (text : Text) : decode (encode text) = .ok text := by
  have read (pos : Nat) : decodeFrom pos none (encode text) = .ok text := by
    induction text generalizing pos with
    | nil => rfl
    | cons c rest ih =>
      obtain ⟨next, step⟩ := decodeFrom_encodeChar pos c (encode rest)
      have whole : encode (c :: rest) = encodeChar c ++ encode rest := rfl
      rw [whole, step, ih]
      rfl
  exact read 0

end StyleScore.Text.Utf8
