import Mathlib.Algebra.BigOperators.Ring.List
import Mathlib.Tactic.Ring
import StyleScore.Proofs.Text.Lower
import StyleScore.Proofs.Tree.Nested
import StyleScore.Selector.Score

/-!
How the combinators of a nested selector grow. Trimming, collapsing blanks, lower case and cutting a
list at its commas lose no combinator and make none, so a nested selector has those written in it,
and those of the selector around once for each `&` of a part, and once for a part without
(`count_nest`). The counts of a nested rule follow from the counts of the rule around it
(`Forest.combinatorCounts_resolved`).
-/
namespace StyleScore.Text

/-! ### The characters of a text -/

variable {x : Char}

theorem count_blanks (black : isBlank x = false) {gap : Text}
    (blank : ∀ c ∈ gap, isBlank c = true) :
    gap.count x = 0 := by
  rw [List.count_eq_zero]
  intro member
  cases black.symm.trans (blank x member)

theorem count_trim (black : isBlank x = false) (text : Text) :
    (trim text).count x = text.count x := by
  obtain ⟨before, after, blank, blankToo, whole⟩ := exists_around_trim text
  conv_rhs => rw [← whole, List.count_append, List.count_append, count_blanks black blank,
    count_blanks black blankToo]
  rw [Nat.zero_add, Nat.add_zero]

theorem count_collapseBlanks (black : isBlank x = false) (text : Text) :
    (collapseBlanks text).count x = text.count x := by
  have other {c : Char} (blank : isBlank c = true) : c ≠ x := by
    rintro rfl
    cases black.symm.trans blank
  fun_induction collapseBlanks text with
  | case1 => rfl
  | case2 c => rfl
  | case3 c d rest blanks ih =>
    obtain ⟨first, second⟩ := Bool.and_eq_true_iff.1 blanks
    have space : ' ' ≠ x := other (by decide)
    rw [ih, List.count_cons_of_ne space, List.count_cons_of_ne (other first),
      List.count_cons_of_ne (other second)]
  | case4 c d rest solid ih => rw [List.count_cons, ih, ← List.count_cons]

theorem count_replaceChar {mark : Char} (differs : x ≠ mark) (new text : Text) :
    (replaceChar mark new text).count x = text.count x + text.count mark * new.count x := by
  induction text with
  | nil => simp [replaceChar]
  | cons c text ih =>
    have step : replaceChar mark new (c :: text) = (if c = mark then new else [c]) ++
        replaceChar mark new text := rfl
    by_cases own : c = mark
    · subst own
      rw [step, if_pos rfl, List.count_append, ih, List.count_cons_of_ne (Ne.symm differs),
        List.count_cons_self]
      ring
    · rw [step, if_neg own, List.singleton_append, List.count_cons, ih, List.count_cons_of_ne own,
        List.count_cons, Nat.add_right_comm]

end StyleScore.Text

namespace StyleScore.Selector

open Text

/-! ### The parts of a selector -/

variable {sign : Char}

theorem count_joinWith {sep : Text} (free : sign ∉ sep) (parts : List Text) :
    (joinWith sep parts).count sign = (parts.map (List.count sign)).sum := by
  induction parts with
  | nil => rfl
  | cons first parts ih =>
    cases parts with
    | nil => simp [joinWith]
    | cons second parts =>
      rw [joinWith_cons (List.cons_ne_nil _ _), List.count_append, List.count_append,
        List.count_eq_zero.2 free, ih]
      rfl

/-- What no step on the way to a nested selector drops, adds or replaces. -/
theorem of_mem_combinatorSigns (listed : sign ∈ combinatorSigns) :
    sign.toNat < 128 ∧ sign.isAlpha = false ∧ isBlank sign = false ∧ sign ∉ ":is(), &".toList := by
  have all : combinatorSigns.all (fun sign => sign.toNat < 128 && !sign.isAlpha && !isBlank sign &&
    !":is(), &".toList.contains sign) = true := by decide
  have own := List.all_eq_true.1 all sign listed
  simpa [and_assoc] using own

theorem count_tidy (listed : sign ∈ combinatorSigns) (text : Text) :
    (tidy text).count sign = text.count sign := by
  obtain ⟨ascii, mark, black, -⟩ := of_mem_combinatorSigns listed
  rw [tidy, count_trim black, count_collapseBlanks black, count_lower ascii mark]

theorem count_asParent (listed : sign ∈ combinatorSigns) (text : Text) :
    (asParent text).count sign = text.count sign := by
  obtain ⟨-, -, -, free⟩ := of_mem_combinatorSigns listed
  rw [asParent]
  split
  · have opening : ":is(".toList.count sign = 0 :=
      List.count_eq_zero.2 fun member => free (by simp_all)
    have closing : [')'].count sign = 0 := List.count_eq_zero.2 fun member => free (by simp_all)
    rw [List.count_append, List.count_append, opening, closing, Nat.zero_add, Nat.add_zero]
  · rfl

/-- Cutting a list loses no sign: what is dropped is commas, blanks and empty parts. -/
theorem sum_count_split (listed : sign ∈ combinatorSigns) (text : Text) :
    ((split text).map (List.count sign)).sum = text.count sign := by
  obtain ⟨-, -, black, free⟩ := of_mem_combinatorSigns listed
  -- an empty part has no sign to lose
  have filtered (parts : List Text) :
      ((parts.filter (· ≠ [])).map (List.count sign)).sum = (parts.map (List.count sign)).sum := by
    induction parts with
    | nil => rfl
    | cons part parts ih =>
      by_cases empty : part = []
      · simp [empty, ← ih]
      · rw [List.filter_cons_of_pos (by simpa using empty), List.map_cons, List.sum_cons, ih,
          List.map_cons, List.sum_cons]
  have trimmed : List.count sign ∘ trim = List.count sign :=
    funext fun segment => count_trim black segment
  have comma : sign ∉ [','] := fun member => free (by simp_all)
  rw [split, filtered, List.map_map, trimmed, ← count_joinWith comma, joinWith_segmentsFrom]

/-- The selector around is written into a part for each `&`, and in front of a part without one. -/
theorem count_nestPart (listed : sign ∈ combinatorSigns) (parent part : Text) :
    (nestPart parent part).count sign =
      part.count sign + max 1 (part.count '&') * parent.count sign := by
  obtain ⟨-, -, black, free⟩ := of_mem_combinatorSigns listed
  rw [nestPart]
  split
  · next marked =>
    have differs : sign ≠ '&' := by
      rintro rfl
      exact free (by decide)
    have some : 1 ≤ part.count '&' := List.count_pos_iff.2 marked
    rw [count_replaceChar differs, Nat.max_eq_right some]
  · next unmarked =>
    have space : ' ' ≠ sign := by
      rintro rfl
      exact free (by decide)
    rw [List.count_eq_zero.2 unmarked, List.count_append, List.count_cons_of_ne space]
    simp [Nat.add_comm]

theorem count_nest (listed : sign ∈ combinatorSigns) (parent own : Text) :
    (nest parent own).count sign =
      own.count sign + ((split own).map fun part => max 1 (part.count '&')).sum *
        parent.count sign := by
  obtain ⟨-, -, -, free⟩ := of_mem_combinatorSigns listed
  have separator : sign ∉ ", ".toList := fun member => free (by simp_all)
  have each : List.count sign ∘ nestPart (asParent parent) = fun part =>
      part.count sign + max 1 (part.count '&') * parent.count sign := by
    funext part
    rw [Function.comp_apply, count_nestPart listed, count_asParent listed]
  rw [nest, count_joinWith separator, List.map_map, each, List.sum_map_add, List.sum_map_mul_right]
  congr 1
  exact sum_count_split listed own

end StyleScore.Selector

namespace StyleScore.Forest

open Selector (combinatorCounts combinatorSigns tidy split)

/-! ### Nested rules -/

variable {forest : Forest} {id above : NodeId} {between beyond : List NodeId}

/-- Below the style rule `above`, with only other rules between: the combinators written in the rule
itself, and those of the selector around as often as that is written into the parts of the list. -/
theorem combinatorCounts_resolved {own around : Text}
    (climb : Climb forest id (between ++ above :: beyond))
    (style : forest.styleSelector? id = some (some own))
    (nested : (forest.styleSelector? above).isSome)
    (nearest : ∀ node ∈ between, forest.styleSelector? node = none)
    (outer : forest.resolved above = .ok (some around)) :
    ∃ text, forest.resolved id = .ok (some text) ∧
      combinatorCounts (tidy text) = combinatorSigns.map fun sign => (sign, own.count sign +
        ((split own).map fun part => max 1 (part.count '&')).sum * around.count sign) := by
  obtain ⟨selector, nested⟩ := Option.isSome_iff_exists.1 nested
  refine ⟨Selector.nest around own, ?_, ?_⟩
  · rw [climb.resolved_below style nested nearest, outer]
    rfl
  · refine List.map_congr_left fun sign listed => ?_
    rw [Selector.count_tidy listed, Selector.count_nest listed]

/-- A list with an empty part and a bracket that nothing opens, in a condition below a list. -/
def looseLists : Forest :=
  ofRules [.style ".a>b, c~d".toList [] [.grouping "media".toList (some "print".toList) none
    [.style "&+&), , >E ".toList [] []]]]

theorem combinatorCounts_resolved_looseLists : ∃ text, looseLists.resolved 3 = .ok (some text) ∧
    combinatorCounts (tidy text) = [('~', 3), ('>', 4), ('+', 1)] := by
  have climb : Climb looseLists 3 ([2] ++ 1 :: []) := .up rfl (.up rfl (.top rfl))
  have nearest : ∀ node ∈ [2], looseLists.styleSelector? node = none :=
    List.forall_mem_singleton.2 rfl
  have outer : looseLists.resolved 1 = .ok (some ".a>b, c~d".toList) := rfl
  obtain ⟨text, inner, counts⟩ := combinatorCounts_resolved climb rfl rfl nearest outer
  exact ⟨text, inner, counts.trans (by decide)⟩

end StyleScore.Forest
