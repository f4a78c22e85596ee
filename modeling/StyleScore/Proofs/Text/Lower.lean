import Mathlib.Data.Bool.AllAny
import StyleScore.Proofs.Text.Collapse
import StyleScore.Proofs.Text.Search

/-!
Lower case, seen from what comes after it. A blank ends every word, so the texts on its two sides
are put into lower case on their own (`lower_append_blank`), and it is the same to make runs of
blanks one space before or after (`lower_collapseBlanks`). Signs stay where they are (`IsSign`), and
a text in lower case has nothing left to change (`isLowercase_lower`, `lower_of_isLowercase`).
-/
namespace StyleScore.Text

/-! ### Blanks between words -/

theorem caseless_of_isBlank {c : Char} (blank : isBlank c = true) :
    isCased c = false ∧ isCaseIgnorable c = false := by
  have all : ∀ n ∈ blankCodes, inRanges n casedRanges = false ∧
      inRanges n caseIgnorableRanges = false := by
    decide +kernel
  exact all c.toNat (isBlank_iff.1 blank)

/-- Behind a blank nothing counts for whether a sigma is final. -/
theorem nearest_append_blank {w : Char} (blank : isBlank w = true) (text more : Text) :
    ((text ++ w :: more).dropWhile isCaseIgnorable).head?.elim false isCased =
      (text.dropWhile isCaseIgnorable).head?.elim false isCased := by
  obtain ⟨uncased, unskipped⟩ := caseless_of_isBlank blank
  induction text with
  | nil => simp [uncased, unskipped]
  | cons c text ih =>
    by_cases skipped : isCaseIgnorable c = true
    · simpa [skipped] using ih
    · simp [skipped]

theorem isFinalSigma_append_blank {w : Char} (blank : isBlank w = true)
    (before far text more : Text) :
    isFinalSigma (before ++ w :: far) text = isFinalSigma before text ∧
      isFinalSigma before (text ++ w :: more) = isFinalSigma before text := by
  simp only [isFinalSigma, nearest_append_blank blank, and_self]

theorem lowerAfter_blank_before {w : Char} (blank : isBlank w = true) (near far text : Text) :
    lowerAfter (near ++ w :: far) text = lowerAfter near text := by
  induction text generalizing near with
  | nil => rfl
  | cons c text ih =>
    have later := ih (c :: near)
    rw [List.cons_append] at later
    rw [lowerAfter, lowerAfter, later, (isFinalSigma_append_blank blank near far text []).1]

theorem lowerAfter_append_blank {w : Char} (blank : isBlank w = true) (before text rest : Text) :
    lowerAfter before (text ++ w :: rest) = lowerAfter before text ++ w :: lower rest := by
  induction text generalizing before with
  | nil =>
    have sigma : w ≠ 'Σ' := by
      rintro rfl
      cases blank
    have dotted : w ≠ 'İ' := by
      rintro rfl
      cases blank
    have later := lowerAfter_blank_before blank [] before rest
    rw [List.nil_append] at later
    simp only [List.nil_append, lowerAfter, if_neg sigma, if_neg dotted,
      (isBlank_lowerChar w).2 blank, later, List.singleton_append]
    rfl
  | cons c text ih =>
    rw [List.cons_append, lowerAfter, lowerAfter, ih,
      (isFinalSigma_append_blank blank before [] text rest).2, List.append_assoc]

/-- What stands on the two sides of a blank is put into lower case on its own. -/
theorem lower_append_blank {w : Char} (blank : isBlank w = true) (text rest : Text) :
    lower (text ++ w :: rest) = lower text ++ w :: lower rest :=
  lowerAfter_append_blank blank [] text rest

theorem lower_blanks_append {gap : Text} (blank : ∀ c ∈ gap, isBlank c = true) (rest : Text) :
    lower (gap ++ rest) = gap ++ lower rest := by
  induction gap with
  | nil => rfl
  | cons w gap ih =>
    obtain ⟨first, others⟩ := List.forall_mem_cons.1 blank
    have step : lower (w :: (gap ++ rest)) = w :: lower (gap ++ rest) :=
      lower_append_blank first [] (gap ++ rest)
    rw [List.cons_append, step, ih others, List.cons_append]

theorem lower_append_blanks {gap : Text} (blank : ∀ c ∈ gap, isBlank c = true) (text : Text) :
    lower (text ++ gap) = lower text ++ gap := by
  cases gap with
  | nil => rw [List.append_nil, List.append_nil]
  | cons w gap =>
    obtain ⟨first, others⟩ := List.forall_mem_cons.1 blank
    have spaces : lower (gap ++ []) = gap ++ lower [] := lower_blanks_append others []
    rw [List.append_nil, show lower [] = [] from rfl, List.append_nil] at spaces
    rw [lower_append_blank first, spaces]

/-! ### Signs -/

/-- Lower case does not touch what the test is true of, and makes no more of it. -/
structure IsSign (test : Char → Bool) : Prop where
  lowered (c : Char) : test (lowerChar c) = test c
  letters : ['Σ', 'ς', 'σ', 'İ', 'i', '\u0307'].all (fun c => !test c) = true

theorem isSign_isBlank : IsSign isBlank where
  lowered c := (isBlank_lowerChar c).1
  letters := by decide

theorem ne_of_isAlpha {sign letter : Char} (mark : sign.isAlpha = false)
    (alpha : letter.isAlpha = true) :
    letter ≠ sign := by
  rintro rfl
  cases mark.symm.trans alpha

/-- An ASCII sign that is no letter: no other character is put into lower case as this one. -/
theorem isSign_of_ascii {sign : Char} (ascii : sign.toNat < 128) (mark : sign.isAlpha = false) :
    IsSign (· == sign) where
  lowered c := by
    by_cases low : c.toNat < 128
    · have all : ∀ n < 128, (Char.ofNat n).toLower = Char.ofNat n ∨
          (Char.ofNat n).isAlpha = true ∧ (Char.ofNat n).toLower.isAlpha = true := by decide +kernel
      have own := all c.toNat low
      rw [Char.ofNat_toNat, ← lowerChar_of_ascii low] at own
      rcases own with same | ⟨letter, letterToo⟩
      · rw [same]
      · rw [beq_eq_false_iff_ne.2 (ne_of_isAlpha mark letter),
          beq_eq_false_iff_ne.2 (ne_of_isAlpha mark letterToo)]
    · have foreign : c ≠ sign := by
        rintro rfl
        omega
      have foreignToo : lowerChar c ≠ sign := by
        by_cases kelvin : c = '\u212A'
        · have small : lowerChar '\u212A' = 'k' := by decide +kernel
          rw [kelvin, small]
          exact ne_of_isAlpha mark rfl
        · have high := foreign_lowerChar (by omega) kelvin
          rintro rfl
          omega
      simp [foreign, foreignToo]
  letters := by
    have all : ['Σ', 'ς', 'σ', 'İ', 'i', '\u0307'].all
        (fun c => c.isAlpha || decide (128 ≤ c.toNat)) = true := by decide
    refine List.all_eq_true.2 fun c listed => ?_
    have foreign : c ≠ sign := by
      rintro rfl
      have own := List.all_eq_true.1 all c listed
      simp only [mark, Bool.false_or, decide_eq_true_eq] at own
      omega
    simpa using foreign

theorem isSign_space : IsSign (· == ' ') :=
  isSign_of_ascii (by decide) (by decide)

/-- The signs that mean something in a header. -/
def headerSigns : List Char := ['(', ')', ':', '@']

theorem isSign_of_mem {sign : Char} (listed : sign ∈ headerSigns) : IsSign (· == sign) := by
  have all : ∀ sign ∈ headerSigns, sign.toNat < 128 ∧ sign.isAlpha = false :=
    List.all_iff_forall_prop.1 (by decide)
  obtain ⟨ascii, mark⟩ := all sign listed
  exact isSign_of_ascii ascii mark

/-- One character in lower case: at least one character, all of them signs or none. -/
theorem lowerAfter_cons (before rest : Text) (c : Char) :
    ∃ d more, lowerAfter before (c :: rest) = d :: more ++ lowerAfter (c :: before) rest ∧
      ∀ test, IsSign test → ∀ e ∈ d :: more, test e = test c := by
  rw [lowerAfter]
  split
  · next sigma =>
    subst sigma
    refine ⟨_, [], rfl, fun test sign e member => ?_⟩
    have letters := sign.letters
    simp only [List.all_cons, List.all_nil, Bool.and_true, Bool.and_eq_true,
      Bool.not_eq_true'] at letters
    rw [List.mem_singleton.1 member]
    split <;> simp [letters]
  · split
    · next dotted =>
      subst dotted
      refine ⟨_, _, rfl, fun test sign e member => ?_⟩
      have letters := sign.letters
      simp only [List.all_cons, List.all_nil, Bool.and_true, Bool.and_eq_true,
        Bool.not_eq_true'] at letters
      simp only [List.mem_cons, List.not_mem_nil, or_false] at member
      rcases member with rfl | rfl <;> simp [letters]
    · refine ⟨_, [], rfl, fun test sign e member => ?_⟩
      rw [List.mem_singleton.1 member]
      exact sign.lowered c

namespace IsSign

variable {test : Char → Bool}

theorem any_lowerAfter (sign : IsSign test) (before text : Text) :
    (lowerAfter before text).any test = text.any test := by
  induction text generalizing before with
  | nil => rfl
  | cons c text ih =>
    obtain ⟨d, more, step, same⟩ := lowerAfter_cons before text c
    have here : (d :: more).any test = test c := by
      rw [Bool.eq_iff_iff, List.any_eq_true]
      constructor
      · rintro ⟨e, member, holds⟩
        rwa [← same test sign e member]
      · intro holds
        exact ⟨d, List.mem_cons_self, (same test sign d List.mem_cons_self).trans holds⟩
    rw [step, List.any_append, here, ih, List.any_cons]

theorem any_lower (sign : IsSign test) (text : Text) : (lower text).any test = text.any test :=
  sign.any_lowerAfter [] text

/-- As many signs as before, but where `İ` becomes two characters only because neither of them is a
sign. -/
theorem countP_lowerAfter (sign : IsSign test) (before text : Text) :
    (lowerAfter before text).countP test = text.countP test := by
  have letters := sign.letters
  simp only [List.all_cons, List.all_nil, Bool.and_true, Bool.and_eq_true,
    Bool.not_eq_true'] at letters
  induction text generalizing before with
  | nil => rfl
  | cons c text ih =>
    rw [lowerAfter, List.countP_append, ih, List.countP_cons, Nat.add_comm]
    congr 1
    split
    · next sigma => split <;> simp [sigma, letters]
    · split
      · next dotted => simp [dotted, letters]
      · rw [List.countP_singleton, sign.lowered]

theorem head?_lowerAfter (sign : IsSign test) (before text : Text) :
    (lowerAfter before text).head?.any test = text.head?.any test := by
  cases text with
  | nil => rfl
  | cons c text =>
    obtain ⟨d, more, step, same⟩ := lowerAfter_cons before text c
    rw [step]
    exact same test sign d List.mem_cons_self

theorem head?_lower (sign : IsSign test) (text : Text) :
    (lower text).head?.any test = text.head?.any test :=
  sign.head?_lowerAfter [] text

theorem getLast?_lowerAfter (sign : IsSign test) (before text : Text) :
    (lowerAfter before text).getLast?.any test = text.getLast?.any test := by
  induction text generalizing before with
  | nil => rfl
  | cons c text ih =>
    obtain ⟨d, more, step, same⟩ := lowerAfter_cons before text c
    rw [step, List.getLast?_append]
    cases text with
    | nil =>
      have last : (d :: more).getLast? = some ((d :: more).getLast (by simp)) :=
        List.getLast?_eq_some_getLast (by simp)
      rw [show lowerAfter (c :: before) [] = [] from rfl, List.getLast?_nil, Option.none_or, last]
      exact same test sign _ (List.getLast_mem _)
    | cons f text =>
      have later := ih (c :: before)
      obtain ⟨g, others, stepToo, -⟩ := lowerAfter_cons (c :: before) text f
      have filled : (lowerAfter (c :: before) (f :: text)).getLast?.isSome := by
        rw [stepToo]
        simp
      obtain ⟨last, found⟩ := Option.isSome_iff_exists.1 filled
      rw [found] at later ⊢
      rw [Option.some_or, later, List.getLast?_cons_cons]

theorem getLast?_lower (sign : IsSign test) (text : Text) :
    (lower text).getLast?.any test = text.getLast?.any test :=
  sign.getLast?_lowerAfter [] text

end IsSign

theorem count_lower {sign : Char} (ascii : sign.toNat < 128) (mark : sign.isAlpha = false)
    (text : Text) :
    (lower text).count sign = text.count sign :=
  (isSign_of_ascii ascii mark).countP_lowerAfter [] text

theorem mem_lower_iff {sign : Char} {text : Text} (listed : sign ∈ headerSigns) :
    sign ∈ lower text ↔ sign ∈ text := by
  have same := (isSign_of_mem listed).any_lower text
  rw [Bool.eq_iff_iff, List.any_eq_true, List.any_eq_true] at same
  simpa using same

theorem getLast?_lower_iff {sign : Char} {text : Text} (listed : sign ∈ headerSigns) :
    (lower text).getLast? = some sign ↔ text.getLast? = some sign := by
  have same := (isSign_of_mem listed).getLast?_lower text
  rw [Bool.eq_iff_iff, Option.any_eq_true, Option.any_eq_true] at same
  simpa using same

theorem head?_lower_iff {sign : Char} {text : Text} (listed : sign ∈ headerSigns) :
    (lower text).head? = some sign ↔ text.head? = some sign := by
  have same := (isSign_of_mem listed).head?_lower text
  rw [Bool.eq_iff_iff, Option.any_eq_true, Option.any_eq_true] at same
  simpa using same

theorem lower_eq_nil_iff {text : Text} : lower text = [] ↔ text = [] := by
  cases text with
  | nil => simp [lower, lowerAfter]
  | cons c text =>
    obtain ⟨d, more, step, -⟩ := lowerAfter_cons [] text c
    simp [lower, step]

/-- Two signs side by side in lower case were so before. -/
theorem pair_of_lowerAfter {p q : Char} (differ : p ≠ q) (first : IsSign (· == p))
    (second : IsSign (· == q)) {before text : Text} (inside : [p, q] <:+: lowerAfter before text) :
    [p, q] <:+: text := by
  induction text generalizing before with
  | nil => exact inside
  | cons c text ih =>
    obtain ⟨d, more, step, same⟩ := lowerAfter_cons before text c
    have pass (e : Char) (member : e ∈ d :: more) : (e = p ↔ c = p) ∧ (e = q ↔ c = q) := by
      have left := same _ first e member
      have right := same _ second e member
      rw [Bool.eq_iff_iff] at left right
      simpa using And.intro left right
    rw [step] at inside
    rcases pair_infix_append.1 inside with here | later | ⟨last, next⟩
    · -- One character in lower case is not two different signs.
      have isFirst := (pass p (here.subset (by simp))).1.1 rfl
      have isSecond := (pass q (here.subset (by simp))).2.1 rfl
      exact absurd (isFirst.symm.trans isSecond) differ
    · exact (ih later).trans (List.suffix_cons c text).isInfix
    · have isFirst : c = p := (pass p (List.mem_of_getLast? last)).1.1 rfl
      have isSecond : text.head? = some q := by
        have heads := second.head?_lowerAfter (c :: before) text
        rw [next, Bool.eq_iff_iff, Option.any_eq_true, Option.any_eq_true] at heads
        simpa using heads
      obtain ⟨rest, rfl⟩ := List.head?_eq_some_iff.1 isSecond
      exact ⟨[], rest, by rw [isFirst]; rfl⟩

/-! ### Runs of blanks -/

/-- For whether a sigma is final a run of blanks is as good as one space. -/
theorem nearest_collapseBlanks (text : Text) :
    ((collapseBlanks text).dropWhile isCaseIgnorable).head?.elim false isCased =
      (text.dropWhile isCaseIgnorable).head?.elim false isCased := by
  have caseless {c : Char} (blank : isBlank c = true) (rest : Text) :
      ((c :: rest).dropWhile isCaseIgnorable).head?.elim false isCased = false := by
    simp [caseless_of_isBlank blank]
  fun_induction collapseBlanks text with
  | case1 => rfl
  | case2 c => rfl
  | case3 c d rest blanks ih =>
    rw [ih, caseless rfl, caseless (Bool.and_eq_true_iff.1 blanks).1]
  | case4 c d rest _ ih =>
    by_cases skipped : isCaseIgnorable c = true
    · simpa [skipped] using ih
    · simp [skipped]

/-- It does not matter whether runs of blanks become one space before or after lower case. -/
theorem lowerAfter_collapseBlanks (before text : Text) :
    lowerAfter before (collapseBlanks text) = collapseBlanks (lowerAfter before text) := by
  have blankStep (before : Text) {w : Char} (blank : isBlank w = true) (rest : Text) :
      lowerAfter before (w :: rest) = w :: lower rest :=
        lowerAfter_append_blank blank before [] rest
  fun_induction collapseBlanks text generalizing before with
  | case1 => exact collapseBlanks_nil.symm
  | case2 c =>
    cases blank : isBlank c with
    | true =>
      rw [blankStep before blank]
      exact (collapseBlanks_singleton c).symm
    | false =>
      obtain ⟨d, more, step, same⟩ := lowerAfter_cons before [] c
      have solid : ∀ e ∈ d :: more, isBlank e = false :=
        fun e member => (same _ isSign_isBlank e member).trans blank
      have none : lowerAfter (c :: before) [] = [] := rfl
      rw [step, none, collapseBlanks_solid_append solid, collapseBlanks_nil]
  | case3 c d rest blanks ih =>
    obtain ⟨first, second⟩ := Bool.and_eq_true_iff.1 blanks
    have next : lower (d :: rest) = d :: lower rest := blankStep [] second rest
    rw [ih, blankStep before rfl, blankStep before first, next, collapseBlanks_cons_cons,
      if_pos blanks]
  | case4 c d rest apart ih =>
    cases blank : isBlank c with
    | true =>
      have solid : ∀ e ∈ (lower (d :: rest)).head?, isBlank e = false := by
        have black : isBlank d = false := by simpa [blank] using apart
        have heads := isSign_isBlank.head?_lower (d :: rest)
        intro e first
        rw [Option.mem_def.1 first] at heads
        exact heads.trans black
      rw [blankStep before blank, blankStep before blank, collapseBlanks_lone solid,
        lower, lower, ih]
    | false =>
      obtain ⟨e, more, step, same⟩ := lowerAfter_cons before (d :: rest) c
      have solid : ∀ f ∈ e :: more, isBlank f = false :=
        fun f member => (same _ isSign_isBlank f member).trans blank
      have stepToo : lowerAfter before (c :: collapseBlanks (d :: rest)) =
          e :: more ++ lowerAfter (c :: before) (collapseBlanks (d :: rest)) := by
        rw [lowerAfter] at step ⊢
        rw [isFinalSigma, nearest_collapseBlanks, ← isFinalSigma, List.append_cancel_right step]
      rw [stepToo, step, collapseBlanks_solid_append solid, ih]

theorem lower_collapseBlanks (text : Text) :
    lower (collapseBlanks text) = collapseBlanks (lower text) :=
  lowerAfter_collapseBlanks [] text

/-! ### Lower case twice -/

/-- Nothing of the text changes in lower case. -/
def IsLowercase (text : Text) : Prop := ∀ c ∈ text, c ≠ 'Σ' ∧ c ≠ 'İ' ∧ lowerChar c = c

theorem IsLowercase.of_subset {text whole : Text} (subset : ∀ c ∈ text, c ∈ whole)
    (lowercase : IsLowercase whole) :
    IsLowercase text :=
  fun c member => lowercase c (subset c member)

theorem lowerAfter_of_isLowercase {text : Text} (lowercase : IsLowercase text) (before : Text) :
    lowerAfter before text = text := by
  induction text generalizing before with
  | nil => rfl
  | cons c text ih =>
    obtain ⟨⟨sigma, dotted, same⟩, others⟩ := List.forall_mem_cons.1 lowercase
    simp only [lowerAfter, if_neg sigma, if_neg dotted, same, ih others, List.singleton_append]

theorem lower_of_isLowercase {text : Text} (lowercase : IsLowercase text) : lower text = text :=
  lowerAfter_of_isLowercase lowercase []

/-- The code of the small letter for a capital of the run. -/
def CapitalRun.small (run : CapitalRun) (n : Nat) : Nat := (n + run.shift).toNat

/-- No small letter of a run is a capital of the other one: the two lie apart, or they take
turns. -/
def CapitalRun.isClearOf (run other : CapitalRun) : Bool :=
  run.small run.last < other.first || other.last < run.small run.first ||
    (run.step = 2 || run.first = run.last) && other.step = 2 &&
      (run.small run.first + other.first) % 2 = 1

theorem isClearOf_capitalRuns :
    capitalRuns.all (fun run => capitalRuns.all run.isClearOf) = true := by decide +kernel

theorem CapitalRun.small_not_capital {run other : CapitalRun} (clear : run.isClearOf other = true)
    (positive : 0 ≤ run.first + run.shift) {n : Nat} (first : run.first ≤ n) (last : n ≤ run.last)
    (turn : (n - run.first) % run.step = 0) :
    ¬(other.first ≤ run.small n ∧ run.small n ≤ other.last ∧
    (run.small n - other.first) % other.step = 0) := by
  simp only [isClearOf, Bool.or_eq_true, Bool.and_eq_true, decide_eq_true_eq] at clear
  unfold small at clear ⊢
  intro capital
  obtain ⟨above, below, hit⟩ := capital
  rcases clear with (before | behind) | ⟨⟨pace, even⟩, odd⟩
  · omega
  · omega
  · rw [even] at hit
    -- The small letters of the run are as even or odd as its first one.
    rcases pace with two | single
    · rw [two] at turn
      omega
    · omega

theorem lowerFromRuns_of_not_capital {n : Nat} {runs : List CapitalRun}
    (clear : ∀ run ∈ runs, ¬(run.first ≤ n ∧ n ≤ run.last ∧ (n - run.first) % run.step = 0)) :
    lowerFromRuns n runs = n := by
  rcases lowerFromRuns_cases n runs with same | ⟨run, member, first, last, turn, -⟩
  · exact same
  · exact absurd ⟨first, last, turn⟩ (clear run member)

theorem lowerFromRuns_small {run : CapitalRun} (member : run ∈ capitalRuns) {n : Nat}
    (first : run.first ≤ n) (last : n ≤ run.last) (turn : (n - run.first) % run.step = 0) :
    lowerFromRuns (run.small n) capitalRuns = run.small n := by
  apply lowerFromRuns_of_not_capital
  intro other listed
  have clear :=
    List.all_eq_true.1 (List.all_eq_true.1 isClearOf_capitalRuns run member) other listed
  have positive := behind_capitalRuns run member
  exact CapitalRun.small_not_capital clear (by omega) first last turn

theorem lowerChar_lowerChar (c : Char) : lowerChar (lowerChar c) = lowerChar c := by
  by_cases low : (lowerChar c).toNat < 128
  · rw [lowerChar_of_ascii low, toLower_lowerChar]
  · by_cases ascii : c.toNat < 128
    · have all : ∀ n < 128, lowerChar (lowerChar (Char.ofNat n)) = lowerChar (Char.ofNat n) := by
        decide +kernel
      have own := all c.toNat ascii
      rwa [Char.ofNat_toNat] at own
    · rw [lowerChar_of_foreign (c := lowerChar c) (by omega)]
      have own := lowerChar_of_foreign (c := c) (by omega)
      rcases lowerFromRuns_cases c.toNat capitalRuns with same | ⟨run, member, first, last,
        turn, moved⟩
      · rw [same, Char.ofNat_toNat] at own
        rw [own, same, Char.ofNat_toNat]
      · rw [moved] at own
        rcases toNat_ofNat_or (run.small c.toNat) with code | zero
        · rw [own, show (c.toNat + run.shift).toNat = run.small c.toNat from rfl, code,
            lowerFromRuns_small member first last turn]
        · rw [own, show (c.toNat + run.shift).toNat = run.small c.toNat from rfl, zero] at low
          omega

theorem lowerChar_ne_dotted {c : Char} (other : c ≠ 'İ') : lowerChar c ≠ 'İ' := by
  have apart : ∀ run ∈ capitalRuns,
      ¬(run.small run.first ≤ 0x130 ∧ 0x130 ≤ run.small run.last) := by decide +kernel
  intro dotted
  by_cases ascii : c.toNat < 128
  · have all : ∀ n < 128, lowerChar (Char.ofNat n) ≠ 'İ' := by decide +kernel
    have own := all c.toNat ascii
    rw [Char.ofNat_toNat] at own
    exact own dotted
  · rw [lowerChar_of_foreign (by omega)] at dotted
    rcases lowerFromRuns_cases c.toNat capitalRuns with same | ⟨run, member, first, last, -, moved⟩
    · rw [same, Char.ofNat_toNat] at dotted
      exact other dotted
    · have code : (Char.ofNat (run.small c.toNat)).toNat = 0x130 := by
        rw [CapitalRun.small, ← moved, dotted]
        rfl
      have bounds := apart run member
      rcases toNat_ofNat_or (run.small c.toNat) with same | zero
      · simp only [CapitalRun.small] at bounds same code
        omega
      · omega

theorem lowerChar_ne_sigma (c : Char) : lowerChar c ≠ 'Σ' := by
  intro sigma
  have twice := lowerChar_lowerChar c
  rw [sigma] at twice
  revert twice
  decide +kernel

theorem isLowercase_lowerAfter (before text : Text) : IsLowercase (lowerAfter before text) := by
  induction text generalizing before with
  | nil => simp [lowerAfter, IsLowercase]
  | cons c text ih =>
    have letters : ∀ d ∈ ['ς', 'σ', 'i', '\u0307'], d ≠ 'Σ' ∧ d ≠ 'İ' ∧ lowerChar d = d :=
      List.all_iff_forall_prop.1 (by decide +kernel)
    intro d member
    rw [lowerAfter, List.mem_append] at member
    rcases member with here | later
    · split at here
      · apply letters
        split at here <;> simp_all
      · next sigma =>
        split at here
        · apply letters
          simp_all
        · next dotted =>
          rw [List.mem_singleton.1 here]
          exact ⟨lowerChar_ne_sigma c, lowerChar_ne_dotted dotted, lowerChar_lowerChar c⟩
    · exact ih _ d later

theorem isLowercase_lower (text : Text) : IsLowercase (lower text) := isLowercase_lowerAfter [] text

end StyleScore.Text
