import StyleScore.Proofs.Tree.Chain
import StyleScore.Proofs.Tree.Firsts

/-!
The walk to the leaves of a forest whose nodes may be shared. The walk drops what it has met before
at every level; the leaves it finds are those of the plain listing of all nodes below, each at its
first place (`leaves_eq_eraseDups`). One law carries this: adding elements that were each added once
before adds the same as adding them all (`foldl_addNew_foldl`).
-/
namespace StyleScore.Forest

/-! ### The plain listing -/

/-- A node has another one among its rules. -/
def Lists (forest : Forest) (id child : NodeId) : Prop := child ∈ forest.children id

/-- All nodes in and below nodes side by side, each before those below it. A node is listed as often
as it is met. -/
inductive Preorder (forest : Forest) : List NodeId → List NodeId → Prop where
  | nil : Preorder forest [] []
  | cons {id : NodeId} {ids below beside : List NodeId}
      (down : Preorder forest (forest.children id) below) (next : Preorder forest ids beside) :
      Preorder forest (id :: ids) (id :: below ++ beside)

theorem Preorder.unique {forest : Forest} {ids listing other : List NodeId}
    (preorder : Preorder forest ids listing) (preorderToo : Preorder forest ids other) :
    listing = other := by
  induction preorder generalizing other with
  | nil =>
    cases preorderToo
    rfl
  | cons _ _ inside after =>
    cases preorderToo with
    | cons down next => rw [inside down, after next]

/-- Every way down from the nodes meets at most `depth` of them. -/
def Shallow (forest : Forest) (depth : Nat) (ids : List NodeId) : Prop :=
  ∀ id ∈ ids, ∀ below, (id :: below).IsChain forest.Lists → below.length < depth

section Walking

variable {forest : Forest} {depth : Nat} {id : NodeId} {ids : List NodeId}

theorem lt_size_of_lists (id child : Nat) (lists : forest.Lists id child) : id < forest.size := by
  cases found : forest.node? id with
  | none =>
    rw [Lists, children, children?, found] at lists
    cases lists
  | some node => exact (Array.getElem?_eq_some_iff.1 found).1

/-- Without a cycle no way down is longer than the number of nodes. -/
theorem shallow_children (acyclic : AcyclicFrom forest.Lists id) (enough : forest.size ≤ depth) :
    forest.Shallow depth (forest.children id) := by
  intro child member below chain
  have whole : (id :: child :: below).IsChain forest.Lists := .cons_cons member chain
  have bound := length_le_of_isChain lt_size_of_lists acyclic whole
  rw [List.length_cons] at bound
  omega

theorem Shallow.eq_nil (shallow : forest.Shallow 0 ids) : ids = [] := by
  cases ids with
  | nil => rfl
  | cons id ids => exact absurd (shallow id List.mem_cons_self [] (.singleton _)) (Nat.lt_irrefl 0)

theorem Shallow.tail (shallow : forest.Shallow depth (id :: ids)) : forest.Shallow depth ids :=
  fun other member => shallow other (List.mem_cons_of_mem id member)

theorem Shallow.down (shallow : forest.Shallow (depth + 1) (id :: ids)) :
    forest.Shallow depth (forest.children id) := by
  intro child member below chain
  have bound := shallow id List.mem_cons_self (child :: below) (.cons_cons member chain)
  rw [List.length_cons] at bound
  omega

theorem Shallow.exists_preorder (shallow : forest.Shallow depth ids) :
    ∃ listing, Preorder forest ids listing := by
  induction depth generalizing ids with
  | zero =>
    rw [shallow.eq_nil]
    exact ⟨[], .nil⟩
  | succ depth down =>
    induction ids with
    | nil => exact ⟨[], .nil⟩
    | cons id ids beside =>
      obtain ⟨below, listed⟩ := down shallow.down
      obtain ⟨others, listedToo⟩ := beside shallow.tail
      exact ⟨_, .cons listed listedToo⟩

/-- One turn of the walk adds a leaf and the leaves below it to those found before. -/
def visit (forest : Forest) (depth : Nat) (found : List NodeId) (id : NodeId) : List NodeId :=
  (forest.leavesWithin depth (forest.children id)).foldl addNew
    (if forest.isLeaf id then addNew found id else found)

theorem leavesWithin_succ (forest : Forest) (depth : Nat) (ids : List NodeId) :
    forest.leavesWithin (depth + 1) ids = ids.foldl (forest.visit depth) [] := rfl

/-- The walk through nodes side by side adds the leaves of their listing to those found before. -/
theorem Preorder.foldl_visit {listing : List NodeId} (preorder : Preorder forest ids listing)
    (shallow : forest.Shallow (depth + 1) ids) (found : List NodeId) :
    ids.foldl (forest.visit depth) found = (listing.filter forest.isLeaf).foldl addNew found := by
  induction preorder generalizing depth found with
  | nil => rfl
  | @cons id ids below beside down next inside after =>
    -- The walk below the node goes one level less deep, which is enough for what is there.
    have walked : forest.leavesWithin depth (forest.children id) =
        (below.filter forest.isLeaf).foldl addNew [] := by
      cases depth with
      | zero =>
        rw [shallow.down.eq_nil] at down
        cases down
        rfl
      | succ depth => exact inside shallow.down []
    have own : forest.visit depth found id =
        ((id :: below).filter forest.isLeaf).foldl addNew found := by
      rw [visit, walked, foldl_addNew_foldl, List.foldl_nil, List.filter_cons]
      split <;> rfl
    rw [List.foldl_cons, own, after shallow.tail, List.filter_append, List.foldl_append]

theorem Preorder.leavesWithin_eq {listing : List NodeId} (preorder : Preorder forest ids listing)
    (shallow : forest.Shallow (depth + 1) ids) :
    forest.leavesWithin (depth + 1) ids = (listing.filter forest.isLeaf).eraseDups := by
  rw [leavesWithin_succ, preorder.foldl_visit shallow, ← firsts_eq_eraseDups]
  rfl

end Walking

/-! ### The leaves below a node -/

section Leaves

variable {forest : Forest} {id : NodeId} {ids : List NodeId}

theorem children?_eq_none_iff (forest : Forest) (id : NodeId) :
    forest.children? id = none ↔ (forest.kind? id).elim false NodeKind.isContainer = false := by
  unfold children? kind?
  cases forest.node? id with
  | none => simp
  | some node =>
    simp only [Option.map_some, Option.elim_some]
    cases node.kind.isContainer <;> simp

theorem children_of_children? (listed : forest.children? id = some ids) :
    forest.children id = ids := by
  rw [children, listed]
  rfl

theorem leaves_of_children? (listed : forest.children? id = some ids) :
    forest.leaves (some id) = .ok (forest.leavesWithin (forest.size + 1) ids) := by
  rw [leaves, Option.bind_some, listed]

theorem leaves_eq_error_iff {tree : Option NodeId} {e : Error} :
    forest.leaves tree = .error e ↔
      e = .noRuleTree ∧ ∀ id ∈ tree, (forest.kind? id).elim false NodeKind.isContainer = false := by
  have error_iff : (Except.error Error.noRuleTree : Except Error (List NodeId)) = .error e ↔
      e = .noRuleTree := by
    rw [Except.error.injEq, eq_comm]
  unfold leaves
  cases tree with
  | none => simpa using error_iff
  | some id =>
    simp only [Option.bind_some, Option.mem_some, forall_eq', ← children?_eq_none_iff]
    cases forest.children? id with
    | none => simpa using error_iff
    | some ids => simp

/-- The leaves below a node are those of the plain listing, each at its first place. -/
theorem exists_preorder_leaves (acyclic : AcyclicFrom forest.Lists id)
    (listed : forest.children? id = some ids) :
    ∃ listing, Preorder forest ids listing ∧
      forest.leaves (some id) = .ok (listing.filter forest.isLeaf).eraseDups := by
  have shallow : forest.Shallow (forest.size + 1) ids := by
    rw [← children_of_children? listed]
    exact shallow_children acyclic (Nat.le_succ _)
  obtain ⟨listing, preorder⟩ := shallow.exists_preorder
  exact ⟨listing, preorder, by rw [leaves_of_children? listed, preorder.leavesWithin_eq shallow]⟩

/-- A node is added where it is a leaf, and then the leaves below it where it has rules. -/
def turn (forest : Forest) (found : List NodeId) (id : NodeId) : Except Error (List NodeId) := do
  let found := if forest.isLeaf id then addNew found id else found
  if forest.children id = [] then return found
  else return (← forest.leaves (some id)).foldl addNew found

theorem exists_leaves_of_children (filled : forest.children id ≠ []) :
    ∃ below, forest.children? id = some (forest.children id) ∧
      forest.leaves (some id) = .ok below := by
  cases listed : forest.children? id with
  | none => exact absurd (by rw [children, listed]; rfl) filled
  | some ids =>
    rw [children_of_children? listed]
    exact ⟨_, rfl, leaves_of_children? listed⟩

/-- A turn of the walk, which goes no deeper than it has to, is one that starts a walk of its own
below the node. -/
theorem turn_eq_visit (acyclic : AcyclicFrom forest.Lists id) (found : List NodeId) :
    forest.turn found id = .ok (forest.visit forest.size found id) := by
  unfold turn visit
  by_cases empty : forest.children id = []
  · have nothing : forest.leavesWithin forest.size [] = [] := by cases forest.size <;> rfl
    simp only [empty, if_true, nothing]
    rfl
  · obtain ⟨-, listed, -⟩ := exists_leaves_of_children empty
    have deep := shallow_children acyclic (Nat.le_succ forest.size)
    have enough := shallow_children acyclic (Nat.le_refl forest.size)
    obtain ⟨listing, preorder⟩ := deep.exists_preorder
    have same : forest.leavesWithin (forest.size + 1) (forest.children id) =
        forest.leavesWithin forest.size (forest.children id) := by
      rw [preorder.leavesWithin_eq deep]
      cases size : forest.size with
      | zero =>
        rw [size] at enough
        exact absurd enough.eq_nil empty
      | succ depth =>
        rw [size] at enough
        exact (preorder.leavesWithin_eq enough).symm
    simp only [empty, if_false, leaves_of_children? listed, same]
    rfl

theorem foldlM_turn (acyclic : ∀ id ∈ ids, AcyclicFrom forest.Lists id) (found : List NodeId) :
    ids.foldlM forest.turn found = .ok (ids.foldl (forest.visit forest.size) found) := by
  induction ids generalizing found with
  | nil => rfl
  | cons id ids ih =>
    obtain ⟨first, others⟩ := List.forall_mem_cons.1 acyclic
    rw [List.foldlM_cons, turn_eq_visit first, List.foldl_cons]
    exact ih others _

end Leaves

/-- In a forest without cycles below a node, whose nodes may be listed more than once, the leaves
below the node are those of the plain listing of all nodes below, each at its first place. They are
collected child by child, where a walk below a child always succeeds; the only failure is that there
is no node to start from, or none with rules. -/
theorem leaves_eq_eraseDups {forest : Forest} {tree : Option NodeId}
    (acyclic : ∀ id ∈ tree, AcyclicFrom forest.Lists id) :
    (∀ e, forest.leaves tree = .error e ↔
      e = .noRuleTree ∧ ∀ id ∈ tree, (forest.kind? id).elim false NodeKind.isContainer = false) ∧
    ∀ id ∈ tree, ∀ ids, forest.children? id = some ids →
      (∃ listing, Preorder forest ids listing ∧
        forest.leaves tree = .ok (listing.filter forest.isLeaf).eraseDups) ∧
      forest.leaves tree = ids.foldlM forest.turn [] ∧
      ∀ child ∈ ids, forest.children child ≠ [] →
        ∃ below, forest.leaves (some child) = .ok below := by
  refine ⟨fun e => leaves_eq_error_iff, ?_⟩
  rintro id ⟨⟩ ids listed
  have whole := acyclic id rfl
  have inside : ∀ child ∈ ids, AcyclicFrom forest.Lists child := by
    intro child member
    rw [← children_of_children? listed] at member
    exact whole.of_link member
  refine ⟨exists_preorder_leaves whole listed, ?_, ?_⟩
  · rw [foldlM_turn inside, leaves_of_children? listed]
    rfl
  · intro child _ filled
    obtain ⟨below, -, success⟩ := exists_leaves_of_children filled
    exact ⟨below, success⟩

/-- A sheet that lists a grouping rule twice, with style rules that are listed in several places. -/
def sharedRules : Forest :=
  ⟨#[⟨.sheet, [1, 2, 1], none⟩, ⟨.grouping "media".toList (some "print".toList) none, [3, 2], none⟩,
    ⟨.style (some "b".toList) [], [3], some 1⟩, ⟨.style (some "c".toList) [], [], some 2⟩]⟩

theorem leaves_sharedRules : sharedRules.leaves (some 0) = .ok [3, 2] := by
  have falls : ∀ id child, sharedRules.Lists id child → 4 - child < 4 - id := by
    intro id child lists
    have all : ∀ id < 4, ∀ child ∈ sharedRules.children id, 4 - child < 4 - id := by decide
    exact all id (lt_size_of_lists id child lists) child lists
  have acyclic : ∀ id ∈ some 0, AcyclicFrom sharedRules.Lists id :=
    fun id _ => acyclicFrom_of_falls _ falls id
  obtain ⟨⟨listing, preorder, leaves⟩, -⟩ := (leaves_eq_eraseDups acyclic).2 0 rfl [1, 2, 1] rfl
  have third : Preorder sharedRules [3] [3] := @Preorder.cons sharedRules 3 [] [] [] .nil .nil
  have second : Preorder sharedRules [2] [2, 3] := @Preorder.cons sharedRules 2 [] [3] [] third .nil
  have first : Preorder sharedRules [3, 2] [3, 2, 3] :=
    @Preorder.cons sharedRules 3 [2] [] [2, 3] .nil second
  have last : Preorder sharedRules [1] [1, 3, 2, 3] :=
    @Preorder.cons sharedRules 1 [] [3, 2, 3] [] first .nil
  have later : Preorder sharedRules [2, 1] [2, 3, 1, 3, 2, 3] :=
    @Preorder.cons sharedRules 2 [1] [3] [1, 3, 2, 3] third last
  have whole : Preorder sharedRules [1, 2, 1] [1, 3, 2, 3, 2, 3, 1, 3, 2, 3] :=
    @Preorder.cons sharedRules 1 [2, 1] [3, 2, 3] [2, 3, 1, 3, 2, 3] first later
  rw [leaves, preorder.unique whole]
  cbv

end StyleScore.Forest
