import Mathlib.Data.List.Chain
import Mathlib.Data.List.Perm.Subperm
import Mathlib.Logic.Relation

/-!
Links between numbered nodes. Where only the numbers below a bound have links, a walk along links
that meets no cycle takes at most as many steps as there are such numbers (`length_le_of_isChain`).
What can be reached at all is reached on a walk that meets nothing twice (`exists_nodup_isChain`).
-/
namespace StyleScore

/-- No node that links lead to from `first` is on a cycle. -/
def AcyclicFrom (link : Nat → Nat → Prop) (first : Nat) : Prop :=
  ∀ id, Relation.ReflTransGen link first id → ¬ Relation.TransGen link id id

section Links

variable {link : Nat → Nat → Prop} {first bound : Nat} {ids : List Nat}

theorem AcyclicFrom.of_link {next : Nat} (acyclic : AcyclicFrom link first)
    (step : link first next) :
    AcyclicFrom link next :=
  fun id path => acyclic id (.head step path)

/-- Links along which a number falls are on no cycle. -/
theorem acyclicFrom_of_falls (rank : Nat → Nat) (falls : ∀ a b, link a b → rank b < rank a)
    (first : Nat) :
    AcyclicFrom link first := by
  intro id _ cycle
  have less : ∀ {a b}, Relation.TransGen link a b → rank b < rank a := by
    intro a b path
    induction path with
    | single step => exact falls _ _ step
    | tail _ step ih => exact Nat.lt_trans (falls _ _ step) ih
  exact Nat.lt_irrefl _ (less cycle)

/-- Every node of a walk but the last one has a link. -/
theorem mem_range_of_mem_dropLast (bounded : ∀ a b, link a b → a < bound)
    (chain : ids.IsChain link) :
    ids.dropLast ⊆ List.range bound := by
  intro id member
  induction chain with
  | nil => cases member
  | singleton => cases member
  | @cons_cons first second rest step _ ih =>
    rw [List.dropLast_cons_cons, List.mem_cons] at member
    rcases member with rfl | later
    · exact List.mem_range.2 (bounded _ _ step)
    · exact ih later

theorem reflTransGen_of_mem (chain : (first :: ids).IsChain link) {id : Nat}
    (member : id ∈ first :: ids) :
    Relation.ReflTransGen link first id := by
  induction ids generalizing first with
  | nil =>
    rw [List.mem_singleton.1 member]
  | cons second rest ih =>
    obtain ⟨step, later⟩ := List.isChain_cons_cons.1 chain
    rcases List.mem_cons.1 member with rfl | below
    · exact .refl
    · exact .head step (ih later below)

/-- All nodes of a walk but the last have links, so a walk without repetition is no longer than
there are nodes with links. -/
theorem length_le_of_nodup (bounded : ∀ a b, link a b → a < bound)
    (chain : (first :: ids).IsChain link) (distinct : (first :: ids).Nodup) :
    ids.length ≤ bound := by
  have sources := mem_range_of_mem_dropLast bounded chain
  have most :=
    (List.subperm_of_subset (distinct.sublist (List.dropLast_sublist _)) sources).length_le
  rwa [List.length_dropLast, List.length_cons, Nat.add_sub_cancel, List.length_range] at most

/-- A walk along links that meets no cycle visits different nodes. -/
theorem length_le_of_isChain (bounded : ∀ a b, link a b → a < bound)
    (acyclic : AcyclicFrom link first) (chain : (first :: ids).IsChain link) :
    ids.length ≤ bound := by
  have onwards : (first :: ids).Pairwise (Relation.TransGen link) :=
    (chain.imp fun _ _ step => .single step).pairwise
  have distinct : (first :: ids).Nodup := by
    apply onwards.imp_of_mem
    intro a b member _ path same
    subst same
    exact acyclic a (reflTransGen_of_mem chain member) path
  exact length_le_of_nodup bounded chain distinct

/-- Where a walk would come back to its start, what lies between is left out. -/
theorem exists_nodup_isChain {last : Nat} (path : Relation.ReflTransGen link first last) :
    ∃ ids, (first :: ids).IsChain link ∧ (first :: ids).Nodup ∧
      (first :: ids).getLast? = some last := by
  induction path using Relation.ReflTransGen.head_induction_on with
  | refl => exact ⟨[], .singleton _, by simp, rfl⟩
  | @head first second step _ ih =>
    obtain ⟨ids, chain, distinct, ends⟩ := ih
    by_cases met : first ∈ second :: ids
    · obtain ⟨before, rest, split⟩ := List.append_of_mem met
      rw [split] at chain distinct ends
      refine ⟨rest, chain.right_of_append, (List.nodup_append.1 distinct).2.1, ?_⟩
      rwa [List.getLast?_append_cons] at ends
    · refine ⟨second :: ids, .cons_cons step chain, List.nodup_cons.2 ⟨met, distinct⟩, ?_⟩
      rwa [List.getLast?_cons_cons]

end Links
end StyleScore
