import StyleScore.Tree.Forest

/-!
How the rules of a style sheet lie in its forest. Every rule stands directly before the rules in it,
so a rule and all below it take up a run of numbers. Main statements: the numbers listed as children
are all numbers but that of the sheet, each once (`children_perm`), and a node says of its parent
what the rule around it is (`Place.node?`, `Place.child`).
-/
namespace StyleScore

namespace Rule

def kind : Rule → NodeKind
  | style selector declarations _ => .style (some selector) declarations
  | grouping keyword condition name _ => .grouping keyword condition name
  | statement keyword header => .statement keyword header
  | keyframe key declarations => .keyframe key declarations

/-- The rules directly in a rule. -/
def inner : Rule → List Rule
  | style _ _ rules => rules
  | grouping _ _ _ rules => rules
  | statement _ _ => []
  | keyframe _ _ => []

theorem size_eq (rule : Rule) : rule.size = 1 + sizeAll rule.inner := by
  cases rule <;> rfl

theorem nodes_eq (id : NodeId) (parent : Option NodeId) (rule : Rule) :
    nodes id parent rule =
      ⟨rule.kind, numbers (id + 1) rule.inner, parent⟩ ::
        nodesAll (id + 1) (some id) rule.inner := by
  cases rule <;> rfl

/-- Induction over rules side by side and the rules in them. -/
@[elab_as_elim]
theorem sideBySide {motive : List Rule → Prop} (nil : motive [])
    (cons : ∀ rule rules, motive rule.inner → motive rules → motive (rule :: rules))
    (rules : List Rule) : motive rules := by
  induction h : sizeAll rules using Nat.strongRecOn generalizing rules with
  | ind n ih =>
    cases rules with
    | nil => exact nil
    | cons rule rules =>
      have total : sizeAll (rule :: rules) = rule.size + sizeAll rules := rfl
      have own := rule.size_eq
      exact cons rule rules (ih _ (by omega) _ rfl) (ih _ (by omega) _ rfl)

theorem length_nodesAll (first : NodeId) (parent : Option NodeId) (rules : List Rule) :
    (nodesAll first parent rules).length = sizeAll rules := by
  induction rules using sideBySide generalizing first parent with
  | nil => rfl
  | cons rule rules inside beside =>
    simp only [nodesAll, nodes_eq, sizeAll, size_eq, List.length_append, List.length_cons,
      inside, beside]
    omega

/-- The run of numbers of rules side by side: the first one, those of the rules in it, and those of
the rules beside it. -/
theorem range'_sizeAll_cons (first : Nat) (rule : Rule) (rules : List Rule) :
    List.range' first (sizeAll (rule :: rules)) =
      first :: List.range' (first + 1) (sizeAll rule.inner) ++
        List.range' (first + rule.size) (sizeAll rules) := by
  rw [sizeAll, size_eq, Nat.add_comm 1, Nat.add_right_comm, List.range'_succ, List.cons_append,
    ← List.range'_append_1, Nat.add_assoc, Nat.add_comm 1]

/-- Among the numbers of rules side by side and the children of all nodes below, every number
occurs once. -/
theorem children_perm (first : Nat) (parent : Option NodeId) (rules : List Rule) :
    (numbers first rules ++ (nodesAll first parent rules).flatMap Node.children).Perm
      (List.range' first (sizeAll rules)) := by
  induction rules using sideBySide generalizing first parent with
  | nil => exact .refl _
  | cons rule rules inside beside =>
    rw [range'_sizeAll_cons, numbers, nodesAll, nodes_eq]
    simp only [List.cons_append, List.flatMap_cons, List.flatMap_append]
    apply List.Perm.cons
    rw [← List.append_assoc (numbers (first + 1) rule.inner)]
    exact (List.perm_append_comm_assoc _ _ _).trans
      ((inside (first + 1) (some first)).append (beside (first + rule.size) parent))

/-- `rule` stands at the number `id` below `above`, where the rules side by side start at `first`
below `parent`. -/
inductive Place : Nat → Option Nat → List Rule → Nat → Option Nat → Rule → Prop
  | here {first parent rule rules} : Place first parent (rule :: rules) first parent rule
  | inside {first parent rule rules id above found}
      (place : Place (first + 1) (some first) rule.inner id above found) :
      Place first parent (rule :: rules) id above found
  | beside {first parent rule rules id above found}
      (place : Place (first + rule.size) parent rules id above found) :
      Place first parent (rule :: rules) id above found

/-- Every number of the run is the place of a rule. -/
theorem exists_place {first id : Nat} {rules : List Rule} (parent : Option Nat)
    (lower : first ≤ id) (upper : id < first + sizeAll rules) :
    ∃ above found, Place first parent rules id above found := by
  induction rules using sideBySide generalizing first parent with
  | nil =>
    simp only [sizeAll] at upper
    omega
  | cons rule rules inside beside =>
    have own := rule.size_eq
    simp only [sizeAll] at upper
    by_cases start : id = first
    · subst start
      exact ⟨parent, rule, .here⟩
    by_cases within : id < first + rule.size
    · have after : first + 1 ≤ id := by omega
      obtain ⟨above, found, place⟩ := inside (some first) after (by omega)
      exact ⟨above, found, .inside place⟩
    · have after : first + rule.size ≤ id := by omega
      obtain ⟨above, found, place⟩ := beside parent after (by omega)
      exact ⟨above, found, .beside place⟩

theorem Place.bounds {first id : Nat} {parent above : Option Nat} {rules : List Rule} {found : Rule}
    (place : Place first parent rules id above found) :
    first ≤ id ∧ id + sizeAll found.inner < first + sizeAll rules := by
  induction place with
  | @here first parent rule rules =>
    have := rule.size_eq
    simp only [sizeAll]
    omega
  | @inside first parent rule rules id above found place ih =>
    have := rule.size_eq
    simp only [sizeAll]
    omega
  | @beside first parent rule rules id above found place ih =>
    simp only [sizeAll]
    omega

/-- A number among those of rules side by side is the place of one of them. -/
theorem exists_place_of_mem_numbers {first id : NodeId} {rules : List Rule} (parent : Option NodeId)
    (member : id ∈ numbers first rules) :
    ∃ rule ∈ rules, Place first parent rules id parent rule := by
  induction rules generalizing first with
  | nil => simp [numbers] at member
  | cons rule rules ih =>
    rw [numbers, List.mem_cons] at member
    rcases member with rfl | member
    · exact ⟨rule, by simp, .here⟩
    · obtain ⟨found, belongs, place⟩ := ih member
      exact ⟨found, by simp [belongs], .beside place⟩

theorem le_of_mem_numbers {first id : Nat} {rules : List Rule} (member : id ∈ numbers first rules) :
    first ≤ id := by
  obtain ⟨rule, -, place⟩ := exists_place_of_mem_numbers none member
  exact place.bounds.1

/-- The children of a rule stand below its number. -/
theorem Place.child {first id child : NodeId} {parent above : Option NodeId} {rules : List Rule}
    {found : Rule} (place : Place first parent rules id above found)
    (member : child ∈ numbers (id + 1) found.inner) :
    ∃ rule ∈ found.inner, Place first parent rules child (some id) rule := by
  induction place with
  | here =>
    obtain ⟨rule, belongs, place⟩ := exists_place_of_mem_numbers _ member
    exact ⟨rule, belongs, .inside place⟩
  | inside place ih =>
    obtain ⟨rule, belongs, place⟩ := ih member
    exact ⟨rule, belongs, .inside place⟩
  | beside place ih =>
    obtain ⟨rule, belongs, place⟩ := ih member
    exact ⟨rule, belongs, .beside place⟩

/-- A rule stands side by side with the first one, or it is among the rules of the one that it names
as its parent. -/
theorem Place.parent_cases {first id : NodeId} {parent above : Option NodeId} {rules : List Rule}
    {found : Rule} (place : Place first parent rules id above found) :
    (above = parent ∧ id ∈ numbers first rules) ∨
      ∃ holder around rule, above = some holder ∧ Place first parent rules holder around rule ∧
        id ∈ numbers (holder + 1) rule.inner := by
  induction place with
  | here => exact .inl ⟨rfl, List.mem_cons_self⟩
  | inside place ih =>
    rcases ih with ⟨rfl, member⟩ | ⟨holder, around, rule, rfl, deeper, member⟩
    · exact .inr ⟨_, _, _, rfl, .here, member⟩
    · exact .inr ⟨holder, around, rule, rfl, .inside deeper, member⟩
  | beside place ih =>
    rcases ih with ⟨rfl, member⟩ | ⟨holder, around, rule, rfl, later, member⟩
    · exact .inl ⟨rfl, List.mem_cons_of_mem _ member⟩
    · exact .inr ⟨holder, around, rule, rfl, .beside later, member⟩

end Rule

namespace Forest
open Rule

/-- The nodes of rules side by side stand in the forest from the number `first` on. -/
def Holds (forest : Forest) (first : NodeId) (parent : Option NodeId) (rules : List Rule) : Prop :=
  nodesAll first parent rules <+: forest.nodes.toList.drop first

theorem holds_ofRules (rules : List Rule) : (ofRules rules).Holds 1 none rules := by
  simp [Holds, ofRules]

theorem size_ofRules (rules : List Rule) : (ofRules rules).size = 1 + sizeAll rules := by
  simp only [size, ofRules, List.size_toArray, List.length_cons, length_nodesAll]
  omega

theorem Holds.cons {forest : Forest} {first : NodeId} {parent : Option NodeId} {rule : Rule}
    {rules : List Rule} (held : forest.Holds first parent (rule :: rules)) :
    forest.node? first = some ⟨rule.kind, numbers (first + 1) rule.inner, parent⟩ ∧
      forest.Holds (first + 1) (some first) rule.inner ∧
      forest.Holds (first + rule.size) parent rules := by
  obtain ⟨after, split⟩ := held
  rw [nodesAll, nodes_eq, List.cons_append, List.cons_append] at split
  have rest : forest.nodes.toList.drop (first + 1) =
      nodesAll (first + 1) (some first) rule.inner ++
        (nodesAll (first + rule.size) parent rules ++ after) := by
    rw [← List.drop_drop, ← split, List.drop_one, List.tail_cons, List.append_assoc]
  refine ⟨?_, ⟨_, rest.symm⟩, ⟨after, ?_⟩⟩
  · have head := congrArg List.head? split
    rw [List.head?_cons, List.head?_drop] at head
    rw [node?, ← Array.getElem?_toList]
    exact head.symm
  · have skip : first + rule.size =
        first + 1 + (nodesAll (first + 1) (some first) rule.inner).length := by
      rw [length_nodesAll, size_eq, Nat.add_assoc]
    rw [congrArg (List.drop · forest.nodes.toList) skip, ← List.drop_drop, rest, List.drop_left]

/-- The node at the place of a rule. -/
theorem Holds.node? {forest : Forest} {first id : Nat} {parent above : Option Nat}
    {rules : List Rule} {found : Rule} (held : forest.Holds first parent rules)
    (place : Place first parent rules id above found) :
    forest.node? id = some ⟨found.kind, numbers (id + 1) found.inner, above⟩ := by
  induction place with
  | here => exact held.cons.1
  | inside place ih => exact ih held.cons.2.1
  | beside place ih => exact ih held.cons.2.2

theorem node?_root (rules : List Rule) :
    (ofRules rules).node? root = some ⟨.sheet, numbers 1 rules, none⟩ := rfl

/-- A node of the forest of a style sheet is the sheet or stands at the place of a rule. -/
theorem node?_ofRules {rules : List Rule} {id : Nat} {node : Node}
    (found : (ofRules rules).node? id = some node) :
    (id = root ∧ node = ⟨.sheet, numbers 1 rules, none⟩) ∨
      ∃ above rule, Place 1 none rules id above rule ∧
        node = ⟨rule.kind, numbers (id + 1) rule.inner, above⟩ := by
  by_cases start : id = root
  · subst start
    rw [node?_root] at found
    exact .inl ⟨rfl, (Option.some.inj found).symm⟩
  · have within : id < (ofRules rules).size := (Array.getElem?_eq_some_iff.1 found).1
    rw [size_ofRules] at within
    have lower : 1 ≤ id := Nat.pos_of_ne_zero start
    obtain ⟨above, rule, place⟩ := exists_place none lower within
    rw [(holds_ofRules rules).node? place] at found
    exact .inr ⟨above, rule, place, (Option.some.inj found).symm⟩

theorem lt_size_of_place {rules : List Rule} {id : Nat} {above : Option Nat} {rule : Rule}
    (place : Place 1 none rules id above rule) : id < (ofRules rules).size := by
  have := place.bounds.2
  rw [size_ofRules]
  omega

/-- The children of a node are the numbers of the rules in its rule. -/
theorem children_of_node? {forest : Forest} {id : Nat} {above : Option Nat} {rule : Rule}
    (found : forest.node? id = some ⟨rule.kind, numbers (id + 1) rule.inner, above⟩) :
    forest.children id = numbers (id + 1) rule.inner := by
  simp only [children, children?, found]
  cases rule <;> rfl

theorem children_place {rules : List Rule} {id : Nat} {above : Option Nat} {rule : Rule}
    (place : Place 1 none rules id above rule) :
    (ofRules rules).children id = numbers (id + 1) rule.inner :=
  children_of_node? ((holds_ofRules rules).node? place)

/-- A child stands at the top, or directly in the rule whose child it is. -/
theorem mem_children_ofRules {rules : List Rule} {id child : Nat}
    (member : child ∈ (ofRules rules).children id) :
    (id = root ∧ ∃ rule ∈ rules, Place 1 none rules child none rule) ∨
      ∃ above rule, Place 1 none rules id above rule ∧ id < child ∧
        ∃ inside ∈ rule.inner, Place 1 none rules child (some id) inside := by
  cases node : (ofRules rules).node? id with
  | none => simp [children, children?, node] at member
  | some found =>
    obtain ⟨rfl, -⟩ | ⟨above, rule, place, -⟩ := node?_ofRules node
    · exact .inl ⟨rfl, exists_place_of_mem_numbers none member⟩
    · rw [children_place place] at member
      exact .inr ⟨above, rule, place, le_of_mem_numbers member, place.child member⟩

/-- What a node names as its parent has it among its children. -/
theorem mem_children_of_parent? {rules : List Rule} {id parent : Nat}
    (link : (ofRules rules).parent? id = some parent) :
    id ∈ (ofRules rules).children parent := by
  obtain ⟨node, found, up⟩ := Option.bind_eq_some_iff.1 link
  obtain ⟨-, rfl⟩ | ⟨above, rule, place, rfl⟩ := node?_ofRules found
  · cases up
  · rcases place.parent_cases with ⟨rfl, -⟩ | ⟨holder, around, holding, rfl, outer, member⟩
    · cases up
    · obtain rfl := Option.some.inj up
      rwa [children_place outer]

theorem flatMap_range_getElem? {α β : Type} (items : List α) (f : α → List β) :
    (List.range items.length).flatMap (fun i => items[i]?.elim [] f) = items.flatMap f := by
  induction items with
  | nil => rfl
  | cons item items ih =>
    rw [List.length_cons, List.range_succ_eq_map, List.flatMap_cons, List.flatMap_map,
      List.flatMap_cons]
    simp only [List.getElem?_cons_zero, List.getElem?_cons_succ, Option.elim_some, ih]

/-- All lists of children together hold every number but that of the sheet, each once. -/
theorem allChildren_perm (rules : List Rule) :
    ((List.range (ofRules rules).size).flatMap (ofRules rules).children).Perm
      (List.range' 1 (sizeAll rules)) := by
  have listed (id : Nat) : (ofRules rules).children id =
      (ofRules rules).nodes.toList[id]?.elim [] Node.children := by
    rw [Array.getElem?_toList]
    cases node : (ofRules rules).node? id with
    | none =>
      rw [node?] at node
      simp only [children, children?, node?, node, Option.getD_none, Option.elim_none]
    | some found =>
      obtain ⟨rfl, rfl⟩ | ⟨above, rule, place, rfl⟩ := node?_ofRules node
      · rfl
      · rw [children_place place]
        rw [node?] at node
        rw [node, Option.elim_some]
  have all : (List.range (ofRules rules).size).flatMap (ofRules rules).children =
      (ofRules rules).nodes.toList.flatMap Node.children := by
    rw [funext listed, size, ← Array.length_toList]
    exact flatMap_range_getElem? _ _
  rw [all]
  exact children_perm 1 none rules

end Forest
end StyleScore
