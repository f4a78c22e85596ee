import StyleScore.Proofs.Outcome
import StyleScore.Proofs.Tree.Walk
import StyleScore.Tree.Workshop

/-!
The nodes of a workshop that live. The search for them makes as many rounds as there are nodes, and
that is enough: it finds exactly the nodes that are known or below known ones (`mem_living_iff`). A
parent link of a workshop as it is built up always leads to a node that lives (`Built.linked`); one
step keeps this (`Linked.apply`), because nothing but a drop makes a node die, and a drop clears the
links to those that do.
-/
namespace StyleScore.Workshop

open Relation (ReflTransGen)

/-- A node is known, or it is below a known one. -/
def Lives (workshop : Workshop) (id : NodeId) : Prop :=
  ∃ known ∈ workshop.known, ReflTransGen workshop.forest.Lists known id

/-! ### The search for what lives -/

section Search

variable {forest : Forest} {ids : List NodeId} {id : NodeId} {steps : Nat}

theorem mem_spread : id ∈ spread forest ids ↔ id ∈ ids ∨ ∃ above ∈ ids, forest.Lists above id := by
  rw [spread, Forest.firsts, Forest.mem_foldl_addNew, List.mem_append, List.mem_flatMap]
  simp [Forest.Lists]

theorem mem_reached_of_mem (member : id ∈ ids) : id ∈ reached forest steps ids := by
  induction steps generalizing ids with
  | zero => exact member
  | succ steps ih => exact ih (mem_spread.2 (.inl member))

/-- The end of a walk down from one of the nodes is reached in as many rounds as the walk has
steps. -/
theorem mem_reached_of_isChain {first last : NodeId} {below : List NodeId}
    (chain : (first :: below).IsChain forest.Lists) (ends : (first :: below).getLast? = some last)
    (member : first ∈ ids) (enough : below.length ≤ steps) :
    last ∈ reached forest steps ids := by
  induction below generalizing first ids steps with
  | nil =>
    obtain rfl := Option.some.inj ends
    exact mem_reached_of_mem member
  | cons second below ih =>
    obtain ⟨step, rest⟩ := List.isChain_cons_cons.1 chain
    rw [List.getLast?_cons_cons] at ends
    cases steps with
    | zero => cases enough
    | succ steps =>
      have next : second ∈ spread forest ids := mem_spread.2 (.inr ⟨first, member, step⟩)
      rw [reached]
      exact ih rest ends next (Nat.le_of_succ_le_succ enough)

theorem exists_path_of_mem_reached (member : id ∈ reached forest steps ids) :
    ∃ first ∈ ids, ReflTransGen forest.Lists first id := by
  induction steps generalizing ids with
  | zero => exact ⟨id, member, .refl⟩
  | succ steps ih =>
    obtain ⟨first, spreads, path⟩ := ih member
    rcases mem_spread.1 spreads with given | ⟨above, given, step⟩
    · exact ⟨first, given, path⟩
    · exact ⟨above, given, .head step path⟩

end Search

theorem mem_living_iff {workshop : Workshop} {id : NodeId} :
    id ∈ workshop.living ↔ workshop.Lives id := by
  constructor
  · exact exists_path_of_mem_reached
  · rintro ⟨first, known, path⟩
    obtain ⟨below, chain, distinct, ends⟩ := exists_nodup_isChain path
    exact mem_reached_of_isChain chain ends known
      (length_le_of_nodup Forest.lt_size_of_lists chain distinct)

/-! ### Changes to nodes -/

section Nodes

variable {workshop : Workshop} {id : NodeId}

theorem node?_modify (workshop : Workshop) (changed id : NodeId) (change : Node → Node) :
    (workshop.modify changed change).forest.node? id =
      if changed = id then (workshop.forest.node? id).map change else workshop.forest.node? id :=
  Array.getElem?_modify

/-- A link to a node that does not live is cleared, and nothing else of a node is changed. -/
theorem node?_release (workshop : Workshop) (id : NodeId) :
    workshop.release.forest.node? id =
      (workshop.forest.node? id).map fun node =>
        { node with parent := node.parent.filter (· ∈ workshop.living) } := by
  simp [release, Forest.node?]

theorem parent?_release (workshop : Workshop) (id : NodeId) :
    workshop.release.forest.parent? id =
      (workshop.forest.parent? id).filter (· ∈ workshop.living) := by
  rw [Forest.parent?, node?_release, Forest.parent?]
  cases workshop.forest.node? id <;> rfl

theorem kind?_release (workshop : Workshop) (id : NodeId) :
    workshop.release.forest.kind? id = workshop.forest.kind? id := by
  rw [Forest.kind?, node?_release, Forest.kind?]
  cases workshop.forest.node? id <;> rfl

theorem children?_release (workshop : Workshop) (id : NodeId) :
    workshop.release.forest.children? id = workshop.forest.children? id := by
  rw [Forest.children?, node?_release, Forest.children?]
  cases workshop.forest.node? id <;> rfl

theorem lists_release (workshop : Workshop) :
    workshop.release.forest.Lists = workshop.forest.Lists := by
  funext id child
  rw [Forest.Lists, Forest.children, children?_release, Forest.Lists, Forest.children]

theorem lives_release : workshop.release.Lives id ↔ workshop.Lives id := by
  rw [Lives, lists_release]
  rfl

end Nodes

/-! ### Building up -/

/-- Every parent link leads to a node that lives. -/
def Linked (workshop : Workshop) : Prop :=
  ∀ id parent, workshop.forest.parent? id = some parent → workshop.Lives parent

/-- The later workshop lists and knows all that the earlier one does. -/
structure Grows (before after : Workshop) : Prop where
  lists : ∀ id child, before.forest.Lists id child → after.forest.Lists id child
  known : ∀ id ∈ before.known, id ∈ after.known

section Growth

variable {before between after workshop : Workshop} {id : NodeId}

theorem lives_of_known (known : id ∈ workshop.known) : workshop.Lives id := ⟨id, known, .refl⟩

theorem Grows.trans (first : Grows before between) (second : Grows between after) :
    Grows before after :=
  ⟨fun id child lists => second.lists id child (first.lists id child lists),
    fun id known => second.known id (first.known id known)⟩

theorem Grows.lives (grows : Grows before after) (lives : before.Lives id) : after.Lives id := by
  obtain ⟨first, known, path⟩ := lives
  exact ⟨first, grows.known first known, ReflTransGen.mono grows.lists _ _ path⟩

/-- Where a workshop only grows and every new link leads to what lives, all links still do. -/
theorem Linked.grow (linked : Linked before) (grows : Grows before after)
    (new : ∀ id parent, after.forest.parent? id = some parent →
      before.forest.parent? id = some parent ∨ after.Lives parent) : Linked after := by
  intro id parent link
  rcases new id parent link with old | lives
  · exact grows.lives (linked id parent old)
  · exact lives

theorem lists_iff {forest : Forest} {id child : NodeId} :
    forest.Lists id child ↔
      ∃ node, forest.node? id = some node ∧ node.kind.isContainer = true ∧
        child ∈ node.children := by
  rw [Forest.Lists, Forest.children, Forest.children?]
  cases forest.node? id with
  | none => simp
  | some node => cases container : node.kind.isContainer <;> simp [container]

theorem grows_modify {changed : NodeId} {change : Node → Node}
    (kind : ∀ node, (change node).kind = node.kind)
    (children : ∀ node, ∀ child ∈ node.children, child ∈ (change node).children) :
    Grows workshop (workshop.modify changed change) := by
  refine ⟨?_, fun _ known => known⟩
  intro id child lists
  obtain ⟨node, found, container, member⟩ := lists_iff.1 lists
  refine lists_iff.2 ?_
  rw [node?_modify, found]
  split
  · exact ⟨change node, rfl, by rwa [kind], children node child member⟩
  · exact ⟨node, rfl, container, member⟩

theorem parent?_modify_children (workshop : Workshop) (container rule id : NodeId) :
    (workshop.modify container fun node =>
      { node with children := node.children ++ [rule] }).forest.parent? id =
      workshop.forest.parent? id := by
  rw [Forest.parent?, node?_modify, Forest.parent?]
  split
  · cases workshop.forest.node? id <;> rfl
  · rfl

/-- A node that is given a parent has that one, and the others keep theirs. -/
theorem parent?_modify {changed parent : NodeId} {given : Option NodeId}
    (link : (workshop.modify changed fun node => { node with parent := given }).forest.parent? id =
      some parent) :
    workshop.forest.parent? id = some parent ∨ given = some parent := by
  rw [Forest.parent?, node?_modify] at link
  split at link
  · obtain ⟨node, found, own⟩ := Option.bind_eq_some_iff.1 link
    obtain ⟨old, -, rfl⟩ := Option.map_eq_some_iff.1 found
    exact .inr own
  · exact .inl link

theorem grows_adopt (workshop : Workshop) (container rule : NodeId) :
    Grows workshop (workshop.adopt container rule) := by
  refine (grows_modify ?_ ?_).trans (grows_modify ?_ ?_)
  · exact fun _ => rfl
  · exact fun _ _ member => member
  · exact fun _ => rfl
  · exact fun _ _ member => List.mem_append_left _ member

theorem Linked.adopt {container : NodeId} (linked : Linked workshop)
    (known : container ∈ workshop.known) (rule : NodeId) :
    Linked (workshop.adopt container rule) := by
  refine linked.grow (grows_adopt workshop container rule) ?_
  intro id parent link
  rw [Workshop.adopt, parent?_modify_children] at link
  rcases parent?_modify link with old | given
  · exact .inl old
  · split at given
    · cases given
    · obtain rfl := Option.some.inj given
      exact .inr (lives_of_known known)

theorem Linked.adoptAll {container : NodeId} {rules : List NodeId} (linked : Linked workshop)
    (known : container ∈ workshop.known) :
    Linked (rules.foldl (fun workshop rule => workshop.adopt container rule) workshop) := by
  induction rules generalizing workshop with
  | nil => exact linked
  | cons rule rules ih => exact ih (linked.adopt known rule) known

theorem mem_known_of_find? {name : Text} (found : workshop.find? name = some id) :
    id ∈ workshop.known :=
  List.mem_of_find?_eq_some found

theorem mem_known_of_get {name : Option Text} (found : workshop.get name = .ok id) :
    id ∈ workshop.known := by
  unfold get at found
  split at found
  · next known =>
    obtain ⟨text, -, known⟩ := Option.bind_eq_some_iff.1 known
    obtain rfl := Except.ok.inj found
    exact mem_known_of_find? known
  · cases found

theorem mem_known_of_containerAndRule {container rule : Text} {pair : NodeId × NodeId}
    (found : workshop.containerAndRule container rule = .ok pair) : pair.1 ∈ workshop.known := by
  obtain ⟨id, known, found⟩ := bind_eq_ok.1 found
  split at found
  · cases found
  · split at found
    · cases found
    · obtain rfl := Except.ok.inj found
      exact mem_known_of_get known

/-- A new node is the last one and lists nothing. -/
theorem grows_push (workshop : Workshop) (name : Text) (node : Node) :
    Grows workshop
      ⟨⟨workshop.forest.nodes.push node⟩, workshop.names.push name,
        workshop.known ++ [workshop.forest.size]⟩ := by
  refine ⟨?_, fun id known => List.mem_append_left _ known⟩
  intro id child lists
  have bound := Forest.lt_size_of_lists id child lists
  obtain ⟨old, found, rest⟩ := lists_iff.1 lists
  refine lists_iff.2 ⟨old, ?_, rest⟩
  rw [Forest.node?, Array.getElem?_push]
  exact (if_neg (Nat.ne_of_lt bound)).trans found

theorem Linked.create {name : Text} {kind : NodeKind} {rules : List Text} {parent : Option Text}
    (linked : Linked before) (success : before.create name kind rules parent = .ok after) :
    Linked after := by
  obtain ⟨ids, -, success⟩ := bind_eq_ok.1 success
  obtain rfl := Except.ok.inj success
  refine Linked.adoptAll ?_ (List.mem_append_right _ (List.mem_singleton.2 rfl))
  refine linked.grow (grows_push before name _) ?_
  intro id above link
  rw [Forest.parent?, Forest.node?, Array.getElem?_push] at link
  split at link
  · rw [Option.bind_some] at link
    obtain ⟨text, -, found⟩ := Option.bind_eq_some_iff.1 link
    exact .inr (lives_of_known (List.mem_append_left _ (mem_known_of_find? found)))
  · exact .inl link

theorem linked_release (workshop : Workshop) : Linked workshop.release := by
  intro id parent link
  rw [parent?_release, Option.filter_eq_some_iff] at link
  exact lives_release.2 (mem_living_iff.1 (of_decide_eq_true link.2))

/-- One step keeps every link on a node that lives. -/
theorem Linked.apply {change : Change} (linked : Linked before)
    (applied : before.apply change = .ok after) :
    Linked after := by
  cases change with
  | create name kind rules parent => exact linked.create applied
  | append container rule =>
    obtain ⟨pair, found, applied⟩ := bind_eq_ok.1 applied
    obtain rfl := Except.ok.inj applied
    exact linked.adopt (mem_known_of_containerAndRule found) pair.2
  | push container rule =>
    obtain ⟨pair, -, applied⟩ := bind_eq_ok.1 applied
    obtain rfl := Except.ok.inj applied
    refine linked.grow (grows_modify (fun _ => rfl) fun _ _ member => List.mem_append_left _ member)
      ?_
    intro id parent link
    rw [parent?_modify_children] at link
    exact .inl link
  | setParent name parent =>
    obtain ⟨changed, -, applied⟩ := bind_eq_ok.1 applied
    obtain rfl := Except.ok.inj applied
    refine linked.grow (grows_modify (fun _ => rfl) fun _ _ member => member) ?_
    intro id above link
    rcases parent?_modify link with old | given
    · exact .inl old
    · obtain ⟨text, -, found⟩ := Option.bind_eq_some_iff.1 given
      exact .inr (lives_of_known (mem_known_of_find? found))
  | drop name =>
    rw [Workshop.apply] at applied
    split at applied
    · cases applied
    · obtain rfl := Except.ok.inj applied
      exact linked_release _

end Growth

/-- The workshops that changes one after another lead to. -/
inductive Built : Workshop → Prop where
  | empty : Built empty
  | change {before after : Workshop} (change : Change) (built : Built before)
      (applied : before.apply change = .ok after) : Built after

theorem Built.linked {workshop : Workshop} (built : Built workshop) : Linked workshop := by
  induction built with
  | empty =>
    intro id parent impossible
    cases impossible
  | change _ _ applied ih => exact ih.apply applied

end StyleScore.Workshop
