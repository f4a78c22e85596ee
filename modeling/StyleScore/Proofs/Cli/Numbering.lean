import Mathlib.Order.Bounds.Basic
import StyleScore.Proofs.Cli.Label

/-!
Which label each path of a list takes. A path that leads to another place than the working folder
has a base label (`exists_baseLabel_iff`). It takes that label, or the label with the least number
behind it that no earlier place of the list has taken (`nextLabel_of_labelEach`). A path that is
listed again takes another label there and keeps the last one (`labels_numbered`). A disk has no
links, so that where a path leads to can be told from its parts.
-/
namespace StyleScore

namespace Fields

variable {κ α : Type} [DecidableEq κ]

/-- A name keeps the last value that it is given. -/
theorem get?_collect_append {before after : List (κ × α)} {name : κ} (value : α)
    (last : name ∉ after.map Prod.fst) :
    get? name (collect (before ++ (name, value) :: after)) = some value := by
  rw [collect, List.foldl_append, List.foldl_cons, get?_foldl_put_of_not_mem last]
  exact get?_put_self name value _

theorem exists_last {fields : List (κ × α)} {name : κ} (member : name ∈ fields.map Prod.fst) :
    ∃ before value after, fields = before ++ (name, value) :: after ∧
      name ∉ after.map Prod.fst := by
  induction fields with
  | nil => cases member
  | cons field fields ih =>
    by_cases later : name ∈ fields.map Prod.fst
    · obtain ⟨before, value, after, rfl, last⟩ := ih later
      exact ⟨field :: before, value, after, rfl, last⟩
    · obtain ⟨first, value⟩ := field
      obtain rfl : name = first := by simpa [later] using member
      exact ⟨[], value, fields, rfl, later⟩

/-- Every name is found with one of the values that it is given. -/
theorem exists_get?_collect {fields : List (κ × α)} {name : κ}
    (member : name ∈ fields.map Prod.fst) :
    ∃ value, (name, value) ∈ fields ∧ get? name (collect fields) = some value := by
  obtain ⟨before, value, after, rfl, last⟩ := exists_last member
  exact ⟨value, List.mem_append_right before List.mem_cons_self, get?_collect_append value last⟩

end Fields

namespace Path

theorem withoutCommon_eq_nil_iff (base place : List Text) :
    withoutCommon base place = ([], []) ↔ place = base := by
  fun_induction withoutCommon base place with
  | case1 first base place ih => rw [ih, List.cons_inj_right]
  | case2 first base second place differs => simp [Ne.symm differs]
  | case3 base place unequal =>
    cases base with
    | nil => simp
    | cons first base =>
      cases place with
      | nil => simp
      | cons second place => exact absurd rfl (unequal first base second place rfl)

/-- No parts lead from a folder to itself, and some lead to any other place. -/
theorem partsBetween_eq_nil_iff (base place : List Text) :
    partsBetween base place = [] ↔ place = base := by
  rw [← withoutCommon_eq_nil_iff base place, Prod.ext_iff]
  simp [partsBetween]

end Path

namespace Cli

variable {workFolder used : List Text} {path : Path} {paths : List Path} {base label : Text}
  {each before after : List (Path × Text)}

/-- A path that leads to a place other than the working folder has a base label, and no other path
has one. -/
theorem exists_baseLabel_iff :
    (∃ base, baseLabel workFolder path = .ok base) ↔
      path.hasNull = false ∧ (path.resolved workFolder).parts ≠ workFolder := by
  rw [ne_eq, ← Path.partsBetween_eq_nil_iff]
  constructor
  · rintro ⟨base, named⟩
    obtain ⟨place, placed, named⟩ := bind_eq_ok.1 named
    unfold Path.resolveFrom at placed
    split at placed
    · cases placed
    · next whole =>
      cases placed
      refine ⟨Bool.eq_false_of_not_eq_true whole, ?_⟩
      intro none
      dsimp only at named
      rw [none] at named
      cases named
  · rintro ⟨whole, filled⟩
    have placed : path.resolveFrom workFolder = .ok (path.resolved workFolder) := by
      rw [Path.resolveFrom, whole]
      rfl
    have last := List.getLast?_eq_some_getLast filled
    simp only [baseLabel, placed, bind, Except.bind, last]
    exact ⟨_, rfl⟩

/-- The label that a path takes when some are in use: its base label if that is free, and else the
base label with the least number from 2 on that makes a free label. -/
inductive NextLabel (used : List Text) (base : Text) : Text → Prop where
  | bare (free : base ∉ used) : NextLabel used base base
  | numbered {n : Nat} (taken : base ∈ used)
      (least : IsLeast {k | 2 ≤ k ∧ numberedLabel base k ∉ used} n) :
      NextLabel used base (numberedLabel base n)

theorem le_freeNumber (used : List Text) (label : Text) (n tries : Nat) :
    n ≤ freeNumber used label n tries := by
  induction tries generalizing n with
  | zero => exact Nat.le_refl n
  | succ tries ih =>
    rw [freeNumber]
    split
    · exact Nat.le_of_succ_le (ih (n + 1))
    · exact Nat.le_refl n

/-- The search for a number ends at the least one that is free, whatever labels are in use. -/
theorem nextLabel_freshLabel (used : List Text) (base : Text) :
    NextLabel used base (freshLabel used base) := by
  by_cases taken : base ∈ used
  · have free := freshLabel_not_mem used base
    have found : freshLabel used base = numberedLabel base (freeNumber used base 2 used.length) :=
      if_pos taken
    rw [found] at free ⊢
    refine .numbered taken ⟨⟨le_freeNumber used base 2 _, free⟩, ?_⟩
    rintro k ⟨low, unused⟩
    by_contra below
    exact unused ((freeNumber_spec used base 2 used.length).1 k low (Nat.lt_of_not_le below))
  · rw [freshLabel, if_neg taken]
    exact .bare taken

/-- At every place of a list the path takes a label that no place before it has. -/
theorem nextLabel_of_labelEach
    (done : labelEach workFolder used paths = .ok (before ++ (path, label) :: after)) :
    ∃ base, baseLabel workFolder path = .ok base ∧
      NextLabel (used ++ before.map Prod.snd) base label := by
  -- Each step moves one label from the places before to the labels in use, so their sum stays the
  -- same.
  induction paths generalizing used before with
  | nil =>
    have none := Except.ok.inj done
    simp at none
  | cons first paths ih =>
    obtain ⟨base, named, done⟩ := bind_eq_ok.1 done
    obtain ⟨rest, later, done⟩ := bind_eq_ok.1 done
    have listed := Except.ok.inj done
    cases before with
    | nil =>
      obtain ⟨⟨rfl, rfl⟩, rfl⟩ : (first = path ∧ freshLabel used base = label) ∧ rest = after := by
        simpa using listed
      rw [List.map_nil, List.append_nil]
      exact ⟨base, named, nextLabel_freshLabel used base⟩
    | cons entry before =>
      obtain ⟨rfl, rfl⟩ := List.cons.inj listed
      obtain ⟨own, namedToo, next⟩ := ih later
      rw [List.append_assoc] at next
      exact ⟨own, namedToo, next⟩

theorem exists_labelEach (named : ∀ path ∈ paths, ∃ base, baseLabel workFolder path = .ok base)
    (used : List Text) :
    ∃ each, labelEach workFolder used paths = .ok each := by
  induction paths generalizing used with
  | nil => exact ⟨[], rfl⟩
  | cons path paths ih =>
    obtain ⟨⟨base, own⟩, others⟩ := List.forall_mem_cons.1 named
    obtain ⟨rest, later⟩ := ih others (used ++ [freshLabel used base])
    exact ⟨_, bind_eq_ok.2 ⟨base, own, bind_eq_ok.2 ⟨rest, later, rfl⟩⟩⟩

/-- Every list of paths that lead to other places than the working folder is labelled, each path
with the label that it takes at its last place in the list, and different paths have different
labels. -/
theorem labels_numbered
    (elsewhere : ∀ path ∈ paths, path.hasNull = false ∧
      (path.resolved workFolder).parts ≠ workFolder) :
    ∃ each entries, labels workFolder paths = .ok entries ∧ each.map Prod.fst = paths ∧
      (∀ before path label after, each = before ++ (path, label) :: after →
        (∃ base, baseLabel workFolder path = .ok base ∧
          NextLabel (before.map Prod.snd) base label) ∧
          (path ∉ after.map Prod.fst → Fields.get? path entries = some label)) ∧
      ∀ path ∈ paths, ∀ other ∈ paths, Fields.get? path entries = Fields.get? other entries →
        path = other := by
  obtain ⟨each, done⟩ :=
    exists_labelEach (fun path member => exists_baseLabel_iff.2 (elsewhere path member)) []
  obtain ⟨listed, apart, -⟩ := labelEach_spec done
  refine ⟨each, Fields.collect each, map_eq_ok.2 ⟨each, done, rfl⟩, listed, ?_, ?_⟩
  · rintro before path label after rfl
    exact ⟨nextLabel_of_labelEach done, Fields.get?_collect_append label⟩
  · intro path member other memberToo same
    rw [← listed] at member memberToo
    obtain ⟨label, inside, own⟩ := Fields.exists_get?_collect member
    obtain ⟨labelToo, insideToo, ownToo⟩ := Fields.exists_get?_collect memberToo
    rw [own, ownToo] at same
    exact congrArg Prod.fst (List.inj_on_of_nodup_map apart inside insideToo (Option.some.inj same))

/-- A path that is listed twice, one with the same base label outside the working folder, and one
whose own name is the label that the first takes at its second place. -/
def crowdedPaths : List Path :=
  ["a.css", "a.css", "../a.css", "a-2.css"].map fun text => Path.ofText text.toList

/-- The labels of these paths: the first one keeps the label of its second place. -/
def crowdedLabels : List (Path × Text) :=
  [("a.css", "a-2"), ("../a.css", "a-3"), ("a-2.css", "a-2-2")].map fun entry =>
    (Path.ofText entry.1.toList, entry.2.toList)

theorem labels_numbered_crowded :
    (∀ path ∈ crowdedPaths, path.hasNull = false ∧
      (path.resolved ["work".toList]).parts ≠ ["work".toList]) ∧
      labels ["work".toList] crowdedPaths = .ok crowdedLabels ∧
      ∃ each, each.map Prod.fst = crowdedPaths ∧ ∀ before path label after,
        each = before ++ (path, label) :: after →
        (∃ base, baseLabel ["work".toList] path = .ok base ∧
          NextLabel (before.map Prod.snd) base label) ∧
          (path ∉ after.map Prod.fst → Fields.get? path crowdedLabels = some label) := by
  have elsewhere : ∀ path ∈ crowdedPaths,
      path.hasNull = false ∧ (path.resolved ["work".toList]).parts ≠ ["work".toList] := by decide
  have labelled : labels ["work".toList] crowdedPaths = .ok crowdedLabels :=
    eq_ok_of_toOption (by decide +kernel)
  obtain ⟨each, entries, found, listed, atPlace, -⟩ := labels_numbered elsewhere
  obtain rfl : crowdedLabels = entries := Except.ok.inj (labelled.symm.trans found)
  exact ⟨elsewhere, labelled, each, listed, atPlace⟩

/-- A path with a null character leads nowhere, so it has no label, and neither has any other path
of the list. -/
theorem labels_of_null_character :
    (∀ path ∈ [Path.ofText "c.css".toList, Path.ofText "a\x00b.css".toList],
        (path.resolved ["work".toList]).parts ≠ ["work".toList]) ∧
      labels ["work".toList] [Path.ofText "c.css".toList, Path.ofText "a\x00b.css".toList] =
        .error .embeddedNull :=
  ⟨by decide, rfl⟩

end Cli
end StyleScore
