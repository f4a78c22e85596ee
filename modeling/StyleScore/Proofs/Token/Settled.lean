import StyleScore.Proofs.Text.Collapse
import StyleScore.Proofs.Token.Normal
import StyleScore.Proofs.Token.Scope
import StyleScore.Proofs.Token.Tidied

/-!
Texts whose blanks may be tidied (`Settled`): every run of them that changes is white space for the
scan, no escape reaches into it, and it breaks no string off. In lower case and squeezed, such a
text is scanned as a tidied one (`tidied_squeeze`).
-/
namespace StyleScore.Scan

open Text (isBlank squeeze)

/-! ### Lower case -/

/-- The second text is the first in lower case, with the same blanks. -/
inductive Lowered : Text → Text → Prop where
  | nil : Lowered [] []
  | char {c d : Char} {s t : Text} (alike : CharAlike c d) (blank : isBlank d = isBlank c)
      (same : isBlank c = true → d = c) (rest : Lowered s t) : Lowered (c :: s) (d :: t)
  | dotted {s t : Text} (rest : Lowered s t) : Lowered ('\u0130' :: s) ('i' :: '\u0307' :: t)

theorem charAlike_lowerChar {c : Char} (other : c ≠ '\u212A') : CharAlike c (Text.lowerChar c) := by
  by_cases low : c.toNat < 128
  · exact .inl ⟨low, Text.lowerChar_of_ascii low⟩
  · exact .inr ⟨by omega, Text.foreign_lowerChar (by omega) other⟩

theorem lowered_lowerAfter {text : Text} (plain : '\u212A' ∉ text) (before : Text) :
    Lowered text (Text.lowerAfter before text) := by
  induction text generalizing before with
  | nil => exact .nil
  | cons c rest ih =>
    have first : c ≠ '\u212A' := fun same => plain (by simp [same])
    have others : '\u212A' ∉ rest := fun member => plain (List.mem_cons_of_mem c member)
    rw [Text.lowerAfter]
    split
    · next sigma =>
      subst sigma
      split
      · exact .char (.inr (by decide)) rfl (by decide) (ih others _)
      · exact .char (.inr (by decide)) rfl (by decide) (ih others _)
    split
    · next dotted =>
      subst dotted
      exact .dotted (ih others _)
    · obtain ⟨blank, same⟩ := Text.isBlank_lowerChar c
      exact .char (charAlike_lowerChar first) blank same (ih others _)

theorem Lowered.of_solid {c : Char} {s t : Text} (lowered : Lowered (c :: s) t)
    (black : isBlank c = false) :
    ∃ d rest, t = d :: rest ∧ isBlank d = false := by
  cases lowered with
  | char _ blank _ _ => exact ⟨_, _, rfl, blank.trans black⟩
  | dotted _ => exact ⟨_, _, rfl, rfl⟩

theorem Lowered.of_blanks {run s t : Text} (lowered : Lowered (run ++ s) t)
    (blank : ∀ c ∈ run, isBlank c = true) :
    ∃ rest, t = run ++ rest ∧ Lowered s rest := by
  induction run generalizing t with
  | nil => exact ⟨t, rfl, lowered⟩
  | cons c run ih =>
    obtain ⟨first, others⟩ := List.forall_mem_cons.1 blank
    cases lowered with
    | char _ _ same rest =>
      obtain ⟨left, rfl, further⟩ := ih rest others
      exact ⟨left, by rw [same first]; rfl, further⟩
    | dotted _ => cases first

/-! ### Blanks -/

/-- What ends a line of a style sheet. -/
def lineEnds : Text := ['\r', '\x0c', '\n']

/-- A run of blanks that tidying changes is white space that no escape reaches into: two blanks or
more, or one at the end. Other blanks stand alone. Lines end in it only where strings are
`intact`. -/
inductive Settled (intact : Prop) : Nat → Text → Prop where
  | nil (reach : Nat) : Settled intact reach []
  | solid {reach : Nat} {c : Char} {s : Text} (black : isBlank c = false)
      (rest : Settled intact (nextReach reach c) s) : Settled intact reach (c :: s)
  | lone {reach : Nat} {c d : Char} {s : Text} (blank : isBlank c = true)
      (black : isBlank d = false) (rest : Settled intact (nextReach reach c) (d :: s)) :
      Settled intact reach (c :: d :: s)
  | gap {c d e : Char} {run s : Text} (gaps : ∀ f ∈ c :: d :: run, Scope.isGap f = true)
      (lines : (∃ f ∈ c :: d :: run, f ∈ lineEnds) → intact) (black : isBlank e = false)
      (rest : Settled intact 0 (e :: s)) : Settled intact 0 (c :: d :: run ++ e :: s)
  | ends {c : Char} {run : Text} (gaps : ∀ f ∈ c :: run, Scope.isGap f = true)
      (lines : (∃ f ∈ c :: run, f ∈ lineEnds) → intact) : Settled intact 0 (c :: run)

theorem mem_lineEnds_of_normalise {text : Text} (line : '\n' ∈ normalise text) :
    ∃ c ∈ text, c ∈ lineEnds := by
  fun_induction normalise text with
  | case1 => cases line
  | case2 rest ih => exact ⟨'\r', by simp, by decide⟩
  | case3 c rest _ ih =>
    rcases List.mem_cons.1 line with first | later
    · refine ⟨c, List.mem_cons_self, ?_⟩
      split at first
      · cases first
      · split at first
        · next ends =>
          rw [Bool.or_eq_true, decide_eq_true_eq, decide_eq_true_eq] at ends
          rcases ends with rfl | rfl <;> decide
        · rw [← first]
          decide
    · obtain ⟨d, member, ends⟩ := ih later
      exact ⟨d, List.mem_cons_of_mem c member, ends⟩

theorem nextReach_of_isGap {c : Char} (gap : Scope.isGap c = true) (reach : Nat) :
    nextReach reach c = 0 := by
  simp only [Scope.isGap, Bool.or_eq_true, decide_eq_true_eq] at gap
  rcases gap with (((rfl | rfl) | rfl) | rfl) | rfl <;> rfl

theorem normalise_of_black {c : Char} (black : isBlank c = false) (rest : Text) :
    normalise (c :: rest) = (if c = '\x00' then '�' else c) :: normalise rest := by
  have other {d : Char} (blank : isBlank d = true) : c ≠ d := by
    rintro rfl
    cases black.symm.trans blank
  rw [normalise_cons rest (other rfl), if_neg (other (d := '\x0c') rfl)]

theorem normalise_before_black (run : Text) {c : Char} (black : isBlank c = false) (rest : Text) :
    normalise (run ++ c :: rest) = normalise run ++ normalise (c :: rest) := by
  refine normalise_append fun _ feed => ?_
  rw [Option.some.inj feed] at black
  cases black

theorem solid_normalise {c : Char} (black : isBlank c = false) (rest : Text) :
    ∀ d ∈ (normalise (c :: rest)).head?, isSpace d = false := by
  apply head?_normalise
  rintro _ ⟨⟩
  exact Scope.isGap_of_black black

/-- White space stays white space, and some of it stays. -/
theorem normalise_gaps {c : Char} {run : Text} (gaps : ∀ f ∈ c :: run, Scope.isGap f = true) :
    ∃ d more, normalise (c :: run) = d :: more ∧ isSpace d = true ∧ (∀ e ∈ more, isSpace e = true) ∧
      ('\n' ∈ d :: more → ∃ f ∈ c :: run, f ∈ lineEnds) := by
  have spaces := isSpace_normalise gaps
  have filled : normalise (c :: run) ≠ [] := by
    rw [Ne, normalise_eq_nil]
    nofun
  obtain ⟨d, more, split⟩ := List.exists_cons_of_ne_nil filled
  rw [split] at spaces
  obtain ⟨first, others⟩ := List.forall_mem_cons.1 spaces
  refine ⟨d, more, split, first, others, fun line => ?_⟩
  rw [← split] at line
  exact mem_lineEnds_of_normalise line

/-- A blank that stands alone is a space for the scan, or it is scanned as it is. -/
theorem tidied_lone {intact : Prop} {reach : Nat} {c d e : Char} {s t : Text}
    (blank : isBlank c = true) (black : isBlank d = false) (blackToo : isBlank e = false)
    (rest : Tidied intact (nextReach reach c) (normalise (d :: s)) (normalise (e :: t))) :
    Tidied intact reach (normalise (c :: d :: s)) (normalise (c :: e :: t)) := by
  have apart {d : Char} (black : isBlank d = false) (s : Text) :
      normalise (c :: d :: s) = normalise [c] ++ normalise (d :: s) :=
        normalise_before_black [c] black s
  have single : normalise [c] =
      [if c = '\x00' then '�' else if c = '\r' || c = '\x0c' then '\n' else c] := by
    rw [normalise]
    · rfl
    · intro rest _ more
      cases more
  rw [apart black, apart blackToo, single]
  cases gap : Scope.isGap c with
  | true =>
    have own : ∀ e ∈ [c], Scope.isGap e = true := by simpa using gap
    have spaces := isSpace_normalise own
    rw [single] at spaces
    exact .lone (spaces _ List.mem_cons_self) (solid_normalise black s)
      (nextReach_of_isGap gap reach ▸ rest)
  | false =>
    have null : c ≠ '\x00' := by
      rintro rfl
      cases blank
    have others := gap
    simp only [Scope.isGap, Bool.or_eq_false_iff, decide_eq_false_iff_not] at others
    have solid : isSpace c = false := by simp [isSpace, others]
    have line : ¬(c = '\r' || c = '\x0c') = true := by simp [others]
    have small : CharAlike c c := by
      have alike : CharAlike c (Text.lowerChar c) := charAlike_lowerChar fun same => by
        rw [same] at blank
        cases blank
      rwa [(Text.isBlank_lowerChar c).2 blank] at alike
    rw [if_neg null, if_neg line]
    exact .char solid small rest

/-- A character that is not blank is scanned as it is, but for the null character, which is scanned
as another one. -/
theorem tidied_solid {intact : Prop} {reach : Nat} {c d : Char} {s t : Text}
    (black : isBlank c = false) (blackToo : isBlank d = false) (alike : CharAlike c d)
    (rest : Tidied intact (nextReach reach c) (normalise s) (normalise t)) :
    Tidied intact reach (normalise (c :: s)) (normalise (d :: t)) := by
  have null : c = '\x00' ↔ d = '\x00' := alike.eq_sign_iff rfl
  rw [normalise_of_black black, normalise_of_black blackToo]
  by_cases zero : c = '\x00'
  · rw [if_pos zero, if_pos (null.1 zero)]
    subst zero
    exact .char rfl (.inr (by decide)) rest
  · rw [if_neg zero, if_neg (mt null.2 zero)]
    have solid : isSpace c = false := by
      have head := solid_normalise black []
      rw [normalise_of_black black, if_neg zero] at head
      exact head c rfl
    exact .char solid alike rest

/-- In lower case and squeezed, a settled text is tidied. -/
theorem tidied_squeeze {intact : Prop} {reach : Nat} {s t : Text} (settled : Settled intact reach s)
    (lowered : Lowered s t) :
    Tidied intact reach (normalise s) (normalise (squeeze t)) := by
  induction settled generalizing t with
  | nil reach =>
    cases lowered
    rw [Text.squeeze_nil]
    exact .nil reach
  | @solid reach c s black rest ih =>
    cases lowered with
    | @char _ d _ t alike blank _ lowered =>
      have blackToo := blank.trans black
      rw [Text.squeeze_of_solid blackToo]
      exact tidied_solid black blackToo alike (ih lowered)
    | dotted lowered =>
      rw [Text.squeeze_of_solid rfl, Text.squeeze_of_solid rfl, normalise_of_black rfl,
        normalise_of_black rfl, normalise_of_black rfl]
      exact .dotted (ih lowered)
  | @lone reach c d s blank black rest ih =>
    have own : ∀ e ∈ [c], isBlank e = true := by simpa using blank
    have lowered : Lowered ([c] ++ d :: s) t := lowered
    obtain ⟨left, rfl, further⟩ := lowered.of_blanks own
    obtain ⟨e, t, rfl, blackToo⟩ := further.of_solid black
    have behind := ih further
    rw [Text.squeeze_of_solid blackToo] at behind
    rw [List.singleton_append, Text.squeeze_lone blackToo, Text.squeeze_of_solid blackToo]
    exact tidied_lone blank black blackToo behind
  | @gap c d e run s gaps lines black rest ih =>
    have blanks : ∀ f ∈ c :: d :: run, isBlank f = true :=
      fun f member => Scope.isBlank_of_isGap (gaps f member)
    obtain ⟨left, rfl, further⟩ := lowered.of_blanks blanks
    obtain ⟨f, t, rfl, blackToo⟩ := further.of_solid black
    obtain ⟨x, more, split, first, others, ended⟩ := normalise_gaps gaps
    rw [Text.squeeze_run blanks blackToo, normalise_before_black _ black, split]
    exact .gap first others (lines ∘ ended) (solid_normalise black s) (ih further)
  | @ends c run gaps lines =>
    have blanks : ∀ f ∈ c :: run, isBlank f = true :=
      fun f member => Scope.isBlank_of_isGap (gaps f member)
    rw [← List.append_nil (c :: run)] at lowered
    obtain ⟨left, rfl, further⟩ := lowered.of_blanks blanks
    cases further
    obtain ⟨x, more, split, first, others, ended⟩ := normalise_gaps gaps
    rw [List.append_nil, Text.squeeze_blank blanks, split]
    exact .ends first others (lines ∘ ended)

end StyleScore.Scan
