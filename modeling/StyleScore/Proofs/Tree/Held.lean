import StyleScore.Proofs.Tree.Leaves
import StyleScore.Proofs.Tree.Lineage
import StyleScore.Proofs.Tree.Living

/-!
The leaves of a style sheet by themselves. Who holds only the leaves lets go of the sheet and of the
grouping rules that no leaf holds, and the links to those are gone. A style rule around a leaf is a
leaf too, as long as it has a selector, and holds all that lies between; so what is cut off has no
style rule in it (`plain_of_dead`), and every leaf weighs what it weighs in the whole tree
(`weighAll_heldBy`).
-/
namespace StyleScore.Forest

open Rule

/-- Some nodes of a forest, held by no one but the caller. -/
def loose (forest : Forest) (ids : List NodeId) : Workshop := ⟨forest, #[], ids⟩

/-- What is left of a forest for those who hold only some nodes of it: links to nodes that are
neither among them nor below them are cleared. -/
def heldBy (forest : Forest) (ids : List NodeId) : Forest := (forest.loose ids).release.forest

/-- Every style rule that has rules in it has a selector. -/
def HoldersNamed (forest : Forest) : Prop :=
  ∀ id selector, forest.styleSelector? id = some (some selector) → forest.children id ≠ [] →
    selector ≠ []

section Holding

variable {rules : List Rule} {id : NodeId} {parents : List NodeId}

theorem parent_lt {parent : Nat} (up : (ofRules rules).IsParent id parent) : parent < id := by
  obtain ⟨rfl, rule, -, place⟩ | ⟨above, rule, -, later, -⟩ :=
    mem_children_ofRules (mem_children_of_parent? up)
  · exact place.bounds.1
  · exact later

theorem acyclicFrom_ofRules (rules : List Rule) (id : NodeId) :
    AcyclicFrom (ofRules rules).IsParent id :=
  acyclicFrom_of_falls (fun id => id) (fun _ _ up => parent_lt up) id

theorem styleSelector?_heldBy (forest : Forest) (ids : List NodeId) :
    (forest.heldBy ids).styleSelector? = forest.styleSelector? := by
  funext id
  rw [styleSelector?, heldBy, Workshop.kind?_release]
  rfl

theorem selector?_heldBy (forest : Forest) (ids : List NodeId) (id : NodeId) :
    (forest.heldBy ids).selector? id = forest.selector? id := by
  rw [Forest.selector?, heldBy, Workshop.kind?_release]
  rfl

/-- A style rule that holds rules is a leaf. -/
theorem mem_leaves_of_holder (named : (ofRules rules).HoldersNamed) {selector : Option Text}
    (own : (ofRules rules).styleSelector? id = some selector)
    (filled : (ofRules rules).children id ≠ []) :
    id ∈ leafNumbersAll 1 rules := by
  obtain ⟨declarations, kind⟩ : ∃ declarations,
    (ofRules rules).kind? id = some (.style selector declarations) := by
    unfold styleSelector? at own
    split at own
    · next found declarations same =>
      obtain rfl := Option.some.inj own
      exact ⟨declarations, same⟩
    · cases own
  obtain ⟨-, impossible⟩ | ⟨above, rule, place, same⟩ := kind?_ofRules kind
  · cases impossible
  · apply place.mem_leafNumbersAll
    cases rule with
    | style text _ _ =>
      cases same
      exact decide_eq_true (named id text own filled)
    | _ => cases same

/-- Above a node that does not live there is no style rule: that would be a leaf and would hold the
node. -/
theorem plain_of_dead (named : (ofRules rules).HoldersNamed)
    (climb : Climb (ofRules rules) id parents) (filled : (ofRules rules).children id ≠ [])
    (dead : ¬ ((ofRules rules).loose (leafNumbersAll 1 rules)).Lives id) :
    ∀ above ∈ id :: parents, (ofRules rules).styleSelector? above = none := by
  have plain {id : NodeId} (filled : (ofRules rules).children id ≠ [])
      (dead : ¬ ((ofRules rules).loose (leafNumbersAll 1 rules)).Lives id) :
      (ofRules rules).styleSelector? id = none := by
    cases own : (ofRules rules).styleSelector? id with
    | none => rfl
    | some selector =>
      exact absurd (Workshop.lives_of_known (mem_leaves_of_holder named own filled)) dead
  induction climb with
  | top => exact List.forall_mem_singleton.2 (plain filled dead)
  | @up id parent parents up rest ih =>
    have listed : id ∈ (ofRules rules).children parent := mem_children_of_parent? up
    refine List.forall_mem_cons.2 ⟨plain filled dead, ih (List.ne_nil_of_mem listed) ?_⟩
    rintro ⟨leaf, known, path⟩
    exact dead ⟨leaf, known, path.tail listed⟩

/-- The style rules above a node are the same for those who hold only the leaves. -/
theorem Climb.heldBy (named : (ofRules rules).HoldersNamed)
    (climb : Climb (ofRules rules) id parents) :
    ∃ others, Climb ((ofRules rules).heldBy (leafNumbersAll 1 rules)) id others ∧
      (ofRules rules).selectorsAlong others = (ofRules rules).selectorsAlong parents := by
  have link (id : NodeId) : ((ofRules rules).heldBy (leafNumbersAll 1 rules)).parent? id =
      ((ofRules rules).parent? id).filter (· ∈
        ((ofRules rules).loose (leafNumbersAll 1 rules)).living) :=
    Workshop.parent?_release _ id
  induction climb with
  | top free =>
    refine ⟨[], .top ?_, rfl⟩
    rw [link, free]
    rfl
  | @up id parent parents up rest ih =>
    by_cases lives : parent ∈ ((ofRules rules).loose (leafNumbersAll 1 rules)).living
    · obtain ⟨others, further, same⟩ := ih
      refine ⟨parent :: others, .up ?_ further, ?_⟩
      · rw [link, up]
        simp [Option.filter, lives]
      · rw [← List.singleton_append, selectorsAlong_append, same, ← selectorsAlong_append,
          List.singleton_append]
    · refine ⟨[], .top ?_, ?_⟩
      · rw [link, up]
        simp [Option.filter, lives]
      · have listed : id ∈ (ofRules rules).children parent := mem_children_of_parent? up
        rw [Workshop.mem_living_iff] at lives
        exact (selectorsAlong_eq_nil (plain_of_dead named rest (List.ne_nil_of_mem listed)
          lives)).symm

/-- A leaf has the same completed selector for those who hold only the leaves. -/
theorem resolved_heldBy (named : (ofRules rules).HoldersNamed)
    (leaf : id ∈ leafNumbersAll 1 rules) :
    ((ofRules rules).heldBy (leafNumbersAll 1 rules)).resolved id =
      (ofRules rules).resolved id := by
  obtain ⟨selector, found⟩ := exists_selector?_of_mem_leafNumbersAll leaf
  have own := styleSelector?_of_selector? found
  have ownToo : ((ofRules rules).heldBy (leafNumbersAll 1 rules)).styleSelector? id =
      some (some selector) := by
    rw [styleSelector?_heldBy, own]
  have along (path : List NodeId) :
      ((ofRules rules).heldBy (leafNumbersAll 1 rules)).selectorsAlong path =
      (ofRules rules).selectorsAlong path := by
    rw [selectorsAlong, styleSelector?_heldBy, selectorsAlong]
  obtain ⟨parents, climb⟩ := exists_climb (acyclicFrom_ofRules rules id)
  obtain ⟨others, climbToo, same⟩ := climb.heldBy named
  rw [climbToo.resolved_eq ownToo, climb.resolved_eq own, along, selectorsAlong_cons own, same,
    selectorsAlong_cons own]

end Holding

theorem weighAll_congr {forest other : Forest} {ids : List NodeId}
    (same : ∀ id ∈ ids, other.weigh id = forest.weigh id) :
    other.weighAll ids = forest.weighAll ids := by
  induction ids with
  | nil => rfl
  | cons id ids ih =>
    obtain ⟨own, rest⟩ := List.forall_mem_cons.1 same
    rw [weighAll, own, ih rest, weighAll]

/-- Where every style rule with rules in it has a selector, the leaves of a style sheet weigh the
same when the sheet and all that no leaf holds are let go. -/
theorem weighAll_heldBy {rules : List Rule} (named : (ofRules rules).HoldersNamed) :
    ∃ leaves, (ofRules rules).leaves (some root) = .ok leaves ∧
      ((ofRules rules).heldBy leaves).weighAll leaves =
        (ofRules rules).weightedRules (some root) := by
  refine ⟨_, leaves_ofRules rules, ?_⟩
  rw [weightedRules, leaves_ofRules]
  apply weighAll_congr
  intro id leaf
  rw [weigh, weigh, resolved_heldBy named leaf, selector?_heldBy]

/-- A style rule in a grouping rule in a style rule in a grouping rule, and one whose selector is
empty. -/
def screenCard : List Rule :=
  [.grouping "media".toList (some "screen".toList) none
    [.style "a".toList [] [.grouping "supports".toList (some "(x: y)".toList) none
      [.style "b".toList [] []]]],
   .style [] [] []]

/-- The outer grouping rule is let go, the inner one is held by the leaf around it, and both leaves
keep their weight. -/
theorem weighAll_heldBy_screenCard :
    (ofRules screenCard).leaves (some root) = .ok [2, 4] ∧
      (ofRules screenCard).parent? 2 = some 1 ∧
        ((ofRules screenCard).heldBy [2, 4]).parent? 2 = none ∧
      ((ofRules screenCard).heldBy [2, 4]).parent? 4 = some 3 ∧
      ((ofRules screenCard).heldBy [2, 4]).weighAll [2, 4] =
        (ofRules screenCard).weightedRules (some root) := by
  have named : (ofRules screenCard).HoldersNamed := by
    intro id selector own filled
    match id with
    | 0 | 1 | 3 => cases own
    | 2 | 4 =>
      cases own
      decide
    | 5 => exact absurd rfl filled
    | other + 6 => cases own
  have leaves : (ofRules screenCard).leaves (some root) = .ok [2, 4] := rfl
  obtain ⟨found, listed, same⟩ := weighAll_heldBy named
  rw [leaves] at listed
  cases listed
  refine ⟨leaves, rfl, ?_, ?_, same⟩
  · rw [heldBy, Workshop.parent?_release]
    decide
  · rw [heldBy, Workshop.parent?_release]
    decide

end StyleScore.Forest
