import Mathlib.Data.List.Induction
import Mathlib.Data.List.Nodup
import Mathlib.Data.List.Perm.Subperm
import StyleScore.Cli.Label
import StyleScore.Proofs.Disk.Path
import StyleScore.Proofs.Outcome

/-!
Labels for the reports on several style sheets. As many numbers are tried as there are labels in
use, and one of them is free (`freshLabel_not_mem`): together with the label itself the numbered
ones would be more than are in use. So different places in the list of paths have different labels
(`labelEach_spec`), and each is one name without slashes.
-/
namespace StyleScore

namespace Fields

variable {κ α : Type} [DecidableEq κ] {name : κ} {fields : List (κ × α)}

theorem get?_foldl_put_of_not_mem (fresh : name ∉ fields.map Prod.fst) (collected : List (κ × α)) :
    get? name (fields.foldl (fun collected (name, value) => put name value collected) collected) =
      get? name collected := by
  induction fields generalizing collected with
  | nil => rfl
  | cons field fields ih =>
    rw [List.map_cons, List.mem_cons, not_or] at fresh
    rw [List.foldl_cons, ih fresh.2]
    exact get?_put_of_ne field.2 collected fresh.1

/-- Fields under different names are all found. -/
theorem get?_collect_of_mem {value : α} (distinct : (fields.map Prod.fst).Nodup)
    (member : (name, value) ∈ fields) :
    get? name (collect fields) = some value := by
  unfold collect
  generalize [] = collected
  induction fields generalizing collected with
  | nil => cases member
  | cons field fields ih =>
    rw [List.map_cons, List.nodup_cons] at distinct
    rw [List.foldl_cons]
    rcases List.mem_cons.1 member with rfl | later
    · rw [get?_foldl_put_of_not_mem distinct.1]
      exact get?_put_self name value collected
    · exact ih distinct.2 later _

end Fields

theorem Text.mem_joinWith {c : Char} {sep : Text} {texts : List Text}
    (member : c ∈ joinWith sep texts) :
    c ∈ sep ∨ ∃ text ∈ texts, c ∈ text := by
  fun_induction joinWith sep texts with
  | case1 => cases member
  | case2 text => exact .inr ⟨text, List.mem_singleton_self text, member⟩
  | case3 text texts _ ih =>
    rcases List.mem_append.1 member with front | later
    · rcases List.mem_append.1 front with own | between
      · exact .inr ⟨text, List.mem_cons_self, own⟩
      · exact .inl between
    · rcases ih later with between | ⟨other, inside, own⟩
      · exact .inl between
      · exact .inr ⟨other, List.mem_cons_of_mem text inside, own⟩

namespace Path

theorem mem_of_mem_withoutSuffix {c : Char} {name : Text} (member : c ∈ withoutSuffix name) :
    c ∈ name := by
  unfold withoutSuffix at member
  split at member
  · next front suffix cut =>
    split at member
    · exact member
    · have inside := List.dropLast_subset _ member
      unfold Text.splitLast? at cut
      split at cut
      · rw [← (Prod.mk.inj (Option.some.inj cut)).1] at inside
        exact List.mem_reverse.1 ((List.dropWhile_suffix _).subset (List.mem_reverse.1 inside))
      · cases cut
  · exact member

theorem mem_of_mem_withoutCommon {part : Text} {base place : List Text}
    (member : part ∈ (withoutCommon base place).2) :
    part ∈ place := by
  fun_induction withoutCommon base place with
  | case1 _ _ _ ih => exact List.mem_cons_of_mem _ (ih member)
  | case2 => exact member
  | case3 => exact member

/-- What follows a beginning of the folder is all that can be left after the common beginning. -/
theorem mem_of_mem_withoutCommon_take {part : Text} {base more : List Text} (k : Nat)
    (member : part ∈ (withoutCommon base (base.take k ++ more)).2) : part ∈ more := by
  induction base generalizing k with
  | nil => exact mem_of_mem_withoutCommon (by simpa using member)
  | cons first base ih =>
    cases k with
    | zero => exact mem_of_mem_withoutCommon member
    | succ k =>
      rw [List.take_succ_cons, List.cons_append, withoutCommon, if_pos rfl] at member
      exact ih k member

theorem foldl_step_eq (base parts : List Text) :
    ∃ k more, parts.foldl step base = base.take k ++ more ∧ ∀ part ∈ more, part ∈ parts := by
  induction parts using List.reverseRecOn with
  | nil => exact ⟨base.length, [], by simp, by simp⟩
  | append_singleton parts last ih =>
    obtain ⟨k, more, place, inside⟩ := ih
    rw [List.foldl_append, place]
    change ∃ k more, step _ last = _ ∧ _
    unfold step
    split
    · rcases List.eq_nil_or_concat more with rfl | ⟨front, tip, rfl⟩
      · refine ⟨min ((base.take k).length - 1) k, [], ?_, by simp⟩
        rw [List.append_nil, List.append_nil, List.dropLast_eq_take, List.take_take]
      · refine ⟨k, front, by simp [← List.append_assoc], ?_⟩
        intro part member
        exact List.mem_append_left _ (inside part (by simp [member]))
    · refine ⟨k, more ++ [last], List.append_assoc .., ?_⟩
      intro part member
      rcases List.mem_append.1 member with before | own
      · exact List.mem_append_left _ (inside part before)
      · exact List.mem_append_right _ own

/-- The way from the working folder to a path goes up and along parts of the path itself. -/
theorem mem_partsBetween {base : List Text} {path : Path} {part : Text}
    (member : part ∈ partsBetween base (path.resolved base).parts) :
    part = up ∨ part ∈ path.parts := by
  have place : ∃ k more, (path.resolved base).parts = base.take k ++ more ∧
      ∀ part ∈ more, part ∈ path.parts := by
    unfold resolved absolute
    cases path.root with
    | relative => exact foldl_step_eq base path.parts
    | single | double =>
      obtain ⟨k, more, same, inside⟩ := foldl_step_eq [] path.parts
      exact ⟨0, more, by simpa using same, inside⟩
  obtain ⟨k, more, place, inside⟩ := place
  rw [place] at member
  rcases List.mem_append.1 member with above | below
  · exact .inl (List.eq_of_mem_replicate above)
  · exact .inr (inside part (mem_of_mem_withoutCommon_take k below))

end Path

namespace Cli

section Numbers

variable {used : List Text} {label : Text}

theorem numberedLabel_inj {m n : Nat} (same : numberedLabel label m = numberedLabel label n) :
    m = n := by
  have digits : Text.ofNat m = Text.ofNat n := (List.cons.inj (List.append_cancel_left same)).2
  simpa [Text.ofNat] using congrArg (Nat.ofDigitChars 10 · 0) digits

theorem numberedLabel_ne (label : Text) (n : Nat) : numberedLabel label n ≠ label := by
  intro same
  have lengths := congrArg List.length same
  rw [numberedLabel, List.length_append, List.length_cons] at lengths
  omega

/-- All numbers before the one that is found are in use, and it is free unless the tries have run
out. -/
theorem freeNumber_spec (used : List Text) (label : Text) (n tries : Nat) :
    (∀ k, n ≤ k → k < freeNumber used label n tries → numberedLabel label k ∈ used) ∧
      (numberedLabel label (freeNumber used label n tries) ∉ used ∨
        freeNumber used label n tries = n + tries) := by
  induction tries generalizing n with
  | zero => exact ⟨fun k low high => absurd high (Nat.not_lt.2 low), .inr rfl⟩
  | succ tries ih =>
    rw [freeNumber]
    split
    · next taken =>
      obtain ⟨before, found⟩ := ih (n + 1)
      refine ⟨?_, found.imp_right fun last => by omega⟩
      intro k low high
      rcases Nat.eq_or_lt_of_le low with rfl | low
      · exact taken
      · exact before k low high
    · next free => exact ⟨fun k low high => absurd high (Nat.not_lt.2 low), .inl free⟩

/-- The label and its numbers from 2 on, as many as there are labels in use, are too many to be in
use. -/
theorem exists_free_number (taken : label ∈ used) :
    ∃ k, 2 ≤ k ∧ k < 2 + used.length ∧ numberedLabel label k ∉ used := by
  by_contra! all
  let numbered := (List.range used.length).map fun i => numberedLabel label (2 + i)
  have distinct : (label :: numbered).Nodup := by
    refine List.nodup_cons.2 ⟨?_, List.nodup_range.map fun i j same => ?_⟩
    · intro member
      obtain ⟨i, -, same⟩ := List.mem_map.1 member
      exact numberedLabel_ne label _ same
    · have := numberedLabel_inj same
      omega
  have inside : label :: numbered ⊆ used := by
    refine List.cons_subset.2 ⟨taken, ?_⟩
    intro text member
    obtain ⟨i, small, rfl⟩ := List.mem_map.1 member
    exact all (2 + i) (by omega) (by have := List.mem_range.1 small; omega)
  have most := (List.subperm_of_subset distinct inside).length_le
  simp only [numbered, List.length_cons, List.length_map, List.length_range] at most
  omega

theorem freshLabel_not_mem (used : List Text) (label : Text) : freshLabel used label ∉ used := by
  unfold freshLabel
  split
  · next taken =>
    obtain ⟨before, free | last⟩ := freeNumber_spec used label 2 used.length
    · exact free
    · obtain ⟨k, low, high, free⟩ := exists_free_number taken
      exact absurd (before k low (by omega)) free
  · next free => exact free

theorem freshLabel_cases (used : List Text) (label : Text) :
    freshLabel used label = label ∨ ∃ n, freshLabel used label = numberedLabel label n := by
  unfold freshLabel
  split
  · exact .inr ⟨_, rfl⟩
  · exact .inl rfl

end Numbers

/-- One name: it is not empty and has no slash. -/
def IsName (text : Text) : Prop := text ≠ [] ∧ '/' ∉ text

section Labels

variable {workFolder used : List Text} {paths : List Path} {entries : List (Path × Text)}
    {path : Path} {label : Text}

theorem isName_baseLabel (plain : path.IsPlain) (named : baseLabel workFolder path = .ok label) :
    IsName label := by
  obtain ⟨resolved, placed, named⟩ := bind_eq_ok.1 named
  unfold Path.resolveFrom at placed
  split at placed
  · cases placed
  · cases placed
    have whole : ∀ part ∈ Path.partsBetween workFolder (path.resolved workFolder).parts,
        '/' ∉ part := by
      intro part member
      rcases Path.mem_partsBetween member with rfl | own
      · decide
      · exact (plain part own).2.2
    dsimp only at named
    split at named
    · cases named
    · next name last =>
      rw [← Except.ok.inj named]
      split
      · exact ⟨by decide, by decide⟩
      · next filled =>
        refine ⟨filled, ?_⟩
        intro slash
        rcases Text.mem_joinWith slash with dot | ⟨part, kept, inside⟩
        · exact absurd dot (by decide)
        · rcases List.mem_append.1 (List.mem_filter.1 kept).1 with front | own
          · exact whole part (List.dropLast_subset _ front) inside
          · rw [List.mem_singleton.1 own] at inside
            exact whole name (List.mem_of_getLast? last) (Path.mem_of_mem_withoutSuffix inside)

theorem isName_freshLabel (used : List Text) (name : IsName label) :
    IsName (freshLabel used label) := by
  rcases freshLabel_cases used label with same | ⟨n, numbered⟩
  · rwa [same]
  · rw [numbered]
    refine ⟨by simp [numberedLabel], ?_⟩
    intro slash
    rcases List.mem_append.1 slash with own | digits
    · exact name.2 own
    · rcases List.mem_cons.1 digits with hyphen | digit
      · exact absurd hyphen (by decide)
      · exact absurd (Nat.isDigit_of_mem_toDigits (by decide) (by decide) digit) (by decide)

/-- Every path has a label of its own, none of those in use before. -/
theorem labelEach_spec (done : labelEach workFolder used paths = .ok entries) :
    entries.map Prod.fst = paths ∧ (entries.map Prod.snd).Nodup ∧ ∀ label ∈ entries.map Prod.snd,
      label ∉ used := by
  induction paths generalizing used entries with
  | nil =>
    cases done
    exact ⟨rfl, List.nodup_nil, by simp⟩
  | cons path paths ih =>
    obtain ⟨base, -, done⟩ := bind_eq_ok.1 done
    obtain ⟨rest, later, done⟩ := bind_eq_ok.1 done
    obtain ⟨listed, distinct, fresh⟩ := ih later
    rw [← Except.ok.inj done]
    refine ⟨by simp [listed], List.nodup_cons.2 ⟨?_, distinct⟩, ?_⟩
    · intro again
      exact fresh _ again (List.mem_append_right used (List.mem_singleton_self _))
    · intro label member
      rcases List.mem_cons.1 member with rfl | member
      · exact freshLabel_not_mem used base
      · exact fun taken => fresh label member (List.mem_append_left _ taken)

theorem isName_of_mem_labelEach (plain : ∀ path ∈ paths, path.IsPlain)
    (done : labelEach workFolder used paths = .ok entries) : ∀ entry ∈ entries, IsName entry.2 := by
  induction paths generalizing used entries with
  | nil =>
    cases done
    simp
  | cons path paths ih =>
    obtain ⟨own, others⟩ := List.forall_mem_cons.1 plain
    obtain ⟨base, named, done⟩ := bind_eq_ok.1 done
    obtain ⟨rest, later, done⟩ := bind_eq_ok.1 done
    rw [← Except.ok.inj done]
    exact List.forall_mem_cons.2 ⟨isName_freshLabel used (isName_baseLabel own named),
      ih others later⟩

/-- The label of a path among the labels of all. -/
def labelOf (labels : List (Path × Text)) (path : Path) : Text := (Fields.get? path labels).getD []

/-- Different paths have different labels, each one name. -/
theorem labels_spec (plain : ∀ path ∈ paths, path.IsPlain) (distinct : paths.Nodup)
    (labelled : labels workFolder paths = .ok entries) :
    (∀ path ∈ paths, IsName (labelOf entries path)) ∧
      ∀ path ∈ paths, ∀ other ∈ paths, labelOf entries path = labelOf entries other →
        path = other := by
  obtain ⟨each, done, rfl⟩ := map_eq_ok.1 labelled
  obtain ⟨listed, apart, -⟩ := labelEach_spec done
  have names := isName_of_mem_labelEach plain done
  rw [← listed] at distinct
  have found : ∀ path ∈ paths, ∃ label, (path, label) ∈ each ∧
      labelOf (Fields.collect each) path = label := by
    intro path member
    rw [← listed] at member
    obtain ⟨⟨_, label⟩, inside, rfl⟩ := List.mem_map.1 member
    exact ⟨label, inside, by rw [labelOf, Fields.get?_collect_of_mem distinct inside]; rfl⟩
  refine ⟨?_, ?_⟩
  · intro path member
    obtain ⟨label, inside, own⟩ := found path member
    rw [own]
    exact names _ inside
  · intro path member other memberToo same
    obtain ⟨label, inside, own⟩ := found path member
    obtain ⟨otherLabel, insideToo, ownToo⟩ := found other memberToo
    rw [own, ownToo] at same
    exact congrArg Prod.fst (List.inj_on_of_nodup_map apart inside insideToo same)

end Labels
end Cli
end StyleScore
