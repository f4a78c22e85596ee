import StyleScore.Proofs.Text.Small
import StyleScore.Proofs.Text.Trim

/-!
What tidying does to blanks. Lower case keeps every blank and makes none (`isBlank_lowerChar`), and
squeezing a text leaves all but its runs of blanks: one at the end goes, and one of two or more
becomes a space.
-/
namespace StyleScore.Text

/-! ### Lower case -/

/-- The numbers of the blank characters. -/
def blankCodes : List Nat :=
  [9, 10, 11, 12, 13, 0x1C, 0x1D, 0x1E, 0x1F, 0x20, 0x85, 0xA0, 0x1680, 0x2000, 0x2001, 0x2002,
    0x2003, 0x2004, 0x2005, 0x2006, 0x2007, 0x2008, 0x2009, 0x200A, 0x2028, 0x2029, 0x202F,
    0x205F, 0x3000]

theorem isBlank_iff {c : Char} : isBlank c = true ↔ c.toNat ∈ blankCodes := by
  simp only [isBlank, blankCodes, Bool.or_eq_true, Bool.and_eq_true, decide_eq_true_eq,
    List.mem_cons, List.not_mem_nil, or_false]
  omega

theorem lowerFromRuns_cases (n : Nat) (runs : List CapitalRun) :
    lowerFromRuns n runs = n ∨
      ∃ run ∈ runs, run.first ≤ n ∧ n ≤ run.last ∧ (n - run.first) % run.step = 0 ∧
        lowerFromRuns n runs = (n + run.shift).toNat := by
  induction runs with
  | nil => exact .inl rfl
  | cons run runs ih =>
    rw [lowerFromRuns]
    split
    · exact .inl rfl
    next started =>
    split
    · next inside =>
      rw [Bool.and_eq_true, decide_eq_true_eq, decide_eq_true_eq] at inside
      exact .inr ⟨run, List.mem_cons_self, by omega, inside.1, inside.2, rfl⟩
    · rcases ih with same | ⟨other, member, found⟩
      · exact .inl same
      · exact .inr ⟨other, List.mem_cons_of_mem run member, found⟩

/-- No capital and no small letter of a run is blank. -/
def CapitalRun.Inked (run : CapitalRun) : Prop :=
  ∀ n ∈ blankCodes, ¬(run.first ≤ n ∧ n ≤ run.last) ∧
    ¬(run.first + run.shift ≤ n ∧ n ≤ run.last + run.shift)

instance (run : CapitalRun) : Decidable run.Inked :=
  inferInstanceAs (Decidable (∀ n ∈ blankCodes, _))

theorem inked_capitalRuns : ∀ run ∈ capitalRuns, run.Inked := by decide +kernel

theorem lowerChar_of_foreign {c : Char} (high : 128 ≤ c.toNat) :
    lowerChar c = Char.ofNat (lowerFromRuns c.toNat capitalRuns) := by
  have above : ¬c.val < 0x80 := by
    rw [UInt32.not_lt]
    exact UInt32.le_iff_toNat_le.2 high
  rw [lowerChar, if_neg above]

theorem lowerChar_of_ascii {c : Char} (low : c.toNat < 128) : lowerChar c = c.toLower := by
  have below : c.val < 0x80 := UInt32.lt_iff_toNat_lt.2 low
  rw [lowerChar, if_pos below]

theorem isBlank_lowerChar (c : Char) :
    isBlank (lowerChar c) = isBlank c ∧ (isBlank c = true → lowerChar c = c) := by
  by_cases low : c.toNat < 128
  · have all : ∀ n < 128, isBlank (Char.ofNat n).toLower = isBlank (Char.ofNat n) ∧
        (isBlank (Char.ofNat n) = true → (Char.ofNat n).toLower = Char.ofNat n) := by decide +kernel
    have own := all c.toNat low
    rw [Char.ofNat_toNat] at own
    rwa [lowerChar_of_ascii low]
  · rw [lowerChar_of_foreign (by omega)]
    rcases lowerFromRuns_cases c.toNat capitalRuns with same | ⟨run, member, first, last, -, moved⟩
    · rw [same, Char.ofNat_toNat]
      exact ⟨rfl, fun _ => rfl⟩
    · have inked := inked_capitalRuns run member
      have black : ¬isBlank c = true := fun blank => (inked _ (isBlank_iff.1 blank)).1 ⟨first, last⟩
      have blackToo : ¬isBlank (Char.ofNat (lowerFromRuns c.toNat capitalRuns)) = true := by
        intro blank
        have code := isBlank_iff.1 blank
        rcases toNat_ofNat_or (lowerFromRuns c.toNat capitalRuns) with same | zero
        · rw [same, moved] at code
          have outside := (inked _ code).2
          have positive : 0 < (c.toNat + run.shift).toNat := by
            by_contra none
            rw [Nat.eq_zero_of_not_pos none] at code
            revert code
            decide
          omega
        · rw [zero] at code
          revert code
          decide
      rw [Bool.not_eq_true] at black blackToo
      rw [black, blackToo]
      exact ⟨rfl, nofun⟩

/-- All small letters of a run are characters beyond ASCII. The Kelvin sign is a run of its own. -/
def CapitalRun.Foreign (run : CapitalRun) : Prop :=
  run.first = 0x212A ∧ run.last = 0x212A ∨
    128 ≤ run.first + run.shift ∧
      (run.last + run.shift < 0xD800 ∨ 0xDFFF < run.first + run.shift ∧
        run.last + run.shift < 0x110000)

instance (run : CapitalRun) : Decidable run.Foreign := inferInstanceAs (Decidable (_ ∨ _))

theorem foreign_capitalRuns : ∀ run ∈ capitalRuns, run.Foreign := by decide +kernel

/-- Beyond ASCII only the Kelvin sign has a small letter of ASCII. -/
theorem foreign_lowerChar {c : Char} (high : 128 ≤ c.toNat) (other : c ≠ '\u212A') :
    128 ≤ (lowerChar c).toNat := by
  rw [lowerChar_of_foreign high]
  rcases lowerFromRuns_cases c.toNat capitalRuns with same | ⟨run, member, first, last, -, moved⟩
  · rwa [same, Char.ofNat_toNat]
  · rcases foreign_capitalRuns run member with ⟨kelvin, kelvinToo⟩ | ⟨above, valid⟩
    · have code : c.toNat = '\u212A'.toNat := by
        change c.toNat = 0x212A
        omega
      exact absurd (Char.toNat_inj.1 code) other
    · have character : (lowerFromRuns c.toNat capitalRuns).isValidChar := by
        rw [moved, Nat.isValidChar]
        omega
      rw [Char.ofNat, dif_pos character]
      change 128 ≤ lowerFromRuns c.toNat capitalRuns
      omega

/-! ### Runs of blanks -/

theorem collapseBlanks_nil : collapseBlanks [] = [] := by rw [collapseBlanks.eq_def]

theorem collapseBlanks_singleton (c : Char) : collapseBlanks [c] = [c] := by
  rw [collapseBlanks.eq_def]

theorem collapseBlanks_cons_cons (c d : Char) (rest : Text) : collapseBlanks (c :: d :: rest) =
    if isBlank c && isBlank d then collapseBlanks (' ' :: rest) else c ::
      collapseBlanks (d :: rest) := by
  rw [collapseBlanks.eq_def]

theorem collapseBlanks_lone {c : Char} {rest : Text} (solid : ∀ d ∈ rest.head?, isBlank d = false) :
    collapseBlanks (c :: rest) = c :: collapseBlanks rest := by
  cases rest with
  | nil => rw [collapseBlanks_nil, collapseBlanks_singleton]
  | cons d rest =>
    have black : isBlank d = false := solid d rfl
    rw [collapseBlanks_cons_cons, black, Bool.and_false, if_neg Bool.false_ne_true]

theorem collapseBlanks_of_solid {c : Char} (black : isBlank c = false) (rest : Text) :
    collapseBlanks (c :: rest) = c :: collapseBlanks rest := by
  cases rest with
  | nil => rw [collapseBlanks_nil, collapseBlanks_singleton]
  | cons d rest => rw [collapseBlanks_cons_cons, black, Bool.false_and, if_neg Bool.false_ne_true]

theorem collapseBlanks_solid_append {front : Text} (solid : ∀ c ∈ front, isBlank c = false)
    (back : Text) :
    collapseBlanks (front ++ back) = front ++ collapseBlanks back := by
  induction front with
  | nil => rfl
  | cons c front ih =>
    obtain ⟨first, others⟩ := List.forall_mem_cons.1 solid
    rw [List.cons_append, collapseBlanks_of_solid first, ih others, List.cons_append]

theorem collapseBlanks_run {c d : Char} {run rest : Text}
    (blank : ∀ e ∈ c :: d :: run, isBlank e = true) (solid : ∀ e ∈ rest.head?, isBlank e = false) :
    collapseBlanks (c :: d :: run ++ rest) = ' ' :: collapseBlanks rest := by
  have pair {c d : Char} {rest : Text} (blank : isBlank c = true) (blankToo : isBlank d = true) :
      collapseBlanks (c :: d :: rest) = collapseBlanks (' ' :: rest) := by
    rw [collapseBlanks_cons_cons, blank, blankToo, Bool.and_self, if_pos rfl]
  induction run generalizing c d with
  | nil =>
    obtain ⟨first, others⟩ := List.forall_mem_cons.1 blank
    rw [List.cons_append, List.cons_append, pair first (others d List.mem_cons_self),
      List.nil_append, collapseBlanks_lone solid]
  | cons e run ih =>
    obtain ⟨first, others⟩ := List.forall_mem_cons.1 blank
    obtain ⟨second, others⟩ := List.forall_mem_cons.1 others
    rw [List.cons_append, List.cons_append, pair first second]
    exact ih (List.forall_mem_cons.2 ⟨rfl, others⟩)

/-- Runs of blanks as one space, and none at the end. -/
def squeeze (text : Text) : Text := trimEnd (collapseBlanks text)

theorem squeeze_of_solid {c : Char} (black : isBlank c = false) (rest : Text) :
    squeeze (c :: rest) = c :: squeeze rest := by
  rw [squeeze, collapseBlanks_of_solid black]
  exact trimEnd_append_cons black [] _

/-- A blank or a space stays before what is not blank. -/
theorem trimEnd_cons_collapseBlanks {c d : Char} (black : isBlank d = false) (rest : Text) :
    trimEnd (c :: collapseBlanks (d :: rest)) = c :: squeeze (d :: rest) := by
  rw [squeeze, collapseBlanks_of_solid black]
  have first := trimEnd_append_cons black [c] (collapseBlanks rest)
  have second := trimEnd_append_cons black [] (collapseBlanks rest)
  rw [List.nil_append, List.nil_append] at second
  rw [second]
  exact first

theorem squeeze_lone {c d : Char} (black : isBlank d = false) (rest : Text) :
    squeeze (c :: d :: rest) = c :: squeeze (d :: rest) := by
  have solid : ∀ e ∈ (d :: rest).head?, isBlank e = false := by
    rintro _ ⟨⟩
    exact black
  rw [squeeze, collapseBlanks_lone solid, trimEnd_cons_collapseBlanks black]

theorem squeeze_run {c d e : Char} {run : Text} (blank : ∀ e ∈ c :: d :: run, isBlank e = true)
    (black : isBlank e = false) (rest : Text) :
    squeeze (c :: d :: run ++ e :: rest) = ' ' :: squeeze (e :: rest) := by
  have solid : ∀ f ∈ (e :: rest).head?, isBlank f = false := by
    rintro _ ⟨⟩
    exact black
  rw [squeeze, collapseBlanks_run blank solid, trimEnd_cons_collapseBlanks black]

theorem squeeze_blank {run : Text} (blank : ∀ c ∈ run, isBlank c = true) : squeeze run = [] := by
  have collapsed : ∀ c ∈ collapseBlanks run, isBlank c = true := by
    fun_induction collapseBlanks run with
    | case1 => exact blank
    | case2 c => exact blank
    | case3 c d rest _ ih =>
      apply ih
      exact List.forall_mem_cons.2 ⟨rfl,
        (List.forall_mem_cons.1 (List.forall_mem_cons.1 blank).2).2⟩
    | case4 c d rest _ ih =>
      obtain ⟨first, others⟩ := List.forall_mem_cons.1 blank
      exact List.forall_mem_cons.2 ⟨first, ih others⟩
  rw [squeeze, trimEnd, List.reverse_eq_nil_iff, List.dropWhile_eq_nil_iff]
  intro c member
  exact collapsed c (List.mem_reverse.1 member)

theorem squeeze_nil : squeeze [] = [] := squeeze_blank (by simp)

/-- Blanks at the start go, and what follows them is squeezed. -/
theorem trim_collapseBlanks {before rest : Text} (blank : ∀ c ∈ before, isBlank c = true)
    (solid : ∀ c ∈ rest.head?, isBlank c = false) :
    trim (collapseBlanks (before ++ rest)) = squeeze rest := by
  have start : (collapseBlanks rest).dropWhile isBlank = collapseBlanks rest := by
    cases rest with
    | nil => rw [collapseBlanks_nil, List.dropWhile_nil]
    | cons c rest =>
      rw [collapseBlanks_of_solid (solid c rfl), List.dropWhile_cons, solid c rfl,
        if_neg Bool.false_ne_true]
  have dropped : (collapseBlanks (before ++ rest)).dropWhile isBlank = collapseBlanks rest := by
    match before with
    | [] => exact start
    | [c] =>
      have own : isBlank c = true := blank c List.mem_cons_self
      rw [List.singleton_append, collapseBlanks_lone solid, List.dropWhile_cons, own,
        if_pos rfl, start]
    | c :: d :: before =>
      have space : isBlank ' ' = true := rfl
      rw [collapseBlanks_run blank solid, List.dropWhile_cons, space, if_pos rfl, start]
  rw [trim, trimStart, dropped]
  rfl

end StyleScore.Text
