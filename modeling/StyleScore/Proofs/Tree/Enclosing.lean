import StyleScore.Proofs.Tree.Leaves
import StyleScore.Proofs.Tree.Walk

/-!
The grouping rules around the leaves of a style sheet. They are looked up from the leaves: each leaf
names its parent, and a parent is listed when it is named for the first time. From above they are
the grouping rules with a condition or a name that have a leaf directly in them, in the order of the
first such leaf (`enclosing_ofText`). So an inner rule comes before the one around it when its
leaves do.
-/
namespace StyleScore

namespace Forest
open Rule

/-! ### Elements in the order of what they were found by -/

/-- In an increasing list the first element that passes a test is the smallest. -/
theorem find?_eq_some_iff_of_increasing {items : List Nat} {test : Nat → Bool}
    (increasing : items.Pairwise (· < ·)) {item : Nat} :
    items.find? test = some item ↔ (item ∈ items ∧ test item = true) ∧
      ∀ other ∈ items, test other = true → item ≤ other := by
  induction items with
  | nil => simp
  | cons head items ih =>
    obtain ⟨above, increasing⟩ := List.pairwise_cons.1 increasing
    rw [List.find?_cons]
    cases passes : test head with
    | true =>
      constructor
      · rintro ⟨⟩
        refine ⟨⟨List.mem_cons_self, passes⟩, fun other member _ => ?_⟩
        rcases List.mem_cons.1 member with rfl | later
        · exact Nat.le_refl _
        · exact Nat.le_of_lt (above other later)
      · rintro ⟨⟨member, -⟩, least⟩
        have below := least head List.mem_cons_self passes
        rcases List.mem_cons.1 member with rfl | later
        · rfl
        · exact absurd (above item later) (Nat.not_lt.2 below)
    | false =>
      have other (found : Nat) (holds : test found = true) : found ≠ head := by
        rintro rfl
        rw [passes] at holds
        cases holds
      rw [ih increasing]
      constructor
      · rintro ⟨⟨member, holds⟩, least⟩
        refine ⟨⟨List.mem_cons_of_mem head member, holds⟩, fun found belongs tested => ?_⟩
        exact least found ((List.mem_cons.1 belongs).resolve_left (other found tested)) tested
      · rintro ⟨⟨member, holds⟩, least⟩
        exact ⟨⟨(List.mem_cons.1 member).resolve_left (other item holds), holds⟩,
          fun found belongs => least found (List.mem_cons_of_mem head belongs)⟩

/-- The first of the items from which `f` makes `image` comes before the first from which it makes
`other`. -/
def SourceBefore (items : List Nat) (f : Nat → Option Nat) (image other : Nat) : Prop :=
  ∃ source later, items.find? (fun item => f item = some image) = some source ∧
    items.find? (fun item => f item = some other) = some later ∧ source < later

/-- An image that was found before keeps its first source. -/
theorem SourceBefore.append {items : List Nat} {f : Nat → Option Nat} {image other : Nat}
    (before : SourceBefore items f image other) (more : List Nat) :
    SourceBefore (items ++ more) f image other := by
  obtain ⟨source, later, first, second, less⟩ := before
  exact ⟨source, later, by rw [List.find?_append, first, Option.some_or],
    by rw [List.find?_append, second, Option.some_or], less⟩

/-- An image that is new comes from the item at the end. -/
theorem sourceBefore_concat {items : List Nat} {f : Nat → Option Nat} {item image other : Nat}
    (above : ∀ source ∈ items, source < item) (old : image ∈ items.filterMap f)
    (new : other ∉ items.filterMap f) (made : f item = some other) :
    SourceBefore (items ++ [item]) f image other := by
  obtain ⟨source, first⟩ : ∃ source, (items.find? fun item => f item = some image) =
    some source := by
    rw [← Option.isSome_iff_exists, List.find?_isSome]
    simpa using old
  have absent : (items.find? fun item => f item = some other) = none := by
    rw [List.find?_eq_none]
    simpa using new
  refine ⟨source, item, by rw [List.find?_append, first, Option.some_or], ?_,
    above source (List.mem_of_find?_eq_some first)⟩
  rw [List.find?_append, absent, Option.none_or, List.find?_cons_of_pos (by simpa using made)]

/-- Images are collected in the order of the first items that they come from. -/
theorem sourceBefore_foldl_addNew {f : Nat → Option Nat} (rest : List Nat) {done found : List Nat}
    (increasing : (done ++ rest).Pairwise (· < ·))
    (all : ∀ image, image ∈ found ↔ image ∈ done.filterMap f)
    (ordered : found.Pairwise (SourceBefore done f)) :
    ((rest.filterMap f).foldl addNew found).Pairwise (SourceBefore (done ++ rest) f) := by
  induction rest generalizing done found with
  | nil => simpa using ordered
  | cons item rest ih =>
    have kept : found.Pairwise (SourceBefore (done ++ [item]) f) :=
      ordered.imp fun before => before.append [item]
    rw [List.append_cons] at increasing ⊢
    cases made : f item with
    | none =>
      rw [List.filterMap_cons_none made]
      refine ih increasing (fun image => ?_) kept
      rw [all, List.filterMap_append, List.filterMap_cons_none made, List.filterMap_nil,
        List.append_nil]
    | some image =>
      have grown (other : Nat) : other ∈ addNew found image ↔
          other ∈ (done ++ [item]).filterMap f := by
        rw [mem_addNew, all, List.filterMap_append, List.filterMap_cons_some made,
          List.filterMap_nil, List.mem_append, List.mem_singleton]
      rw [List.filterMap_cons_some made, List.foldl_cons]
      refine ih increasing grown ?_
      unfold addNew
      split
      · exact kept
      · next fresh =>
        have above := (List.pairwise_append.1 (List.pairwise_append.1 increasing).1).2.2
        refine List.pairwise_append.2 ⟨kept, List.pairwise_singleton _ _, ?_⟩
        intro earlier member other same
        obtain rfl := List.mem_singleton.1 same
        exact sourceBefore_concat
          (fun source belongs => above source belongs item (List.mem_singleton.2 rfl))
          ((all earlier).1 member) (fun belongs => fresh ((all other).2 belongs)) made

/-! ### The parents of leaves -/

/-- A grouping rule with a condition or a name that is not empty, and with a style rule directly in
it whose selector is not empty. -/
def Encloses (forest : Forest) (id : NodeId) : Prop :=
  (∃ keyword condition name, forest.kind? id = some (.grouping keyword condition name) ∧
    (condition.getD [] ≠ [] ∨ name.getD [] ≠ [])) ∧
  ∃ child ∈ forest.children id, ∃ selector declarations,
    forest.kind? child = some (.style (some selector) declarations) ∧ selector ≠ []

/-- The first leaf directly in a node. -/
def firstLeaf? (forest : Forest) (id : NodeId) : Option NodeId :=
  (forest.children id).find? forest.isLeaf

/-- The first leaf directly in one node comes before the first leaf directly in the other. -/
def LeafBefore (forest : Forest) (id other : NodeId) : Prop :=
  ∃ leaf later, forest.firstLeaf? id = some leaf ∧ forest.firstLeaf? other = some later ∧
    leaf < later

theorem isLeaf_iff {forest : Forest} {id : NodeId} :
    forest.isLeaf id = true ↔
      ∃ selector declarations, forest.kind? id = some (.style (some selector) declarations) ∧
        selector ≠ [] := by
  unfold isLeaf
  cases forest.kind? id with
  | none => simp
  | some kind =>
    cases kind with
    | style selector declarations => cases selector <;> simp [NodeKind.isLeaf]
    | _ => simp [NodeKind.isLeaf]

theorem isNamed_iff {forest : Forest} {id : NodeId} :
    (forest.kind? id).elim false NodeKind.isNamed = true ↔
      ∃ keyword condition name, forest.kind? id = some (.grouping keyword condition name) ∧
        (condition.getD [] ≠ [] ∨ name.getD [] ≠ []) := by
  cases forest.kind? id with
  | none => simp
  | some kind => cases kind <;> simp [NodeKind.isNamed]

/-- The parent of a node, if that is a grouping rule with a condition or a name. -/
def namedParent? (forest : Forest) (id : NodeId) : Option NodeId :=
  (forest.parent? id).filter fun parent => (forest.kind? parent).elim false NodeKind.isNamed

theorem enclosing_eq_of_leaves {forest : Forest} {tree : Option NodeId} {leaves : List NodeId}
    (listed : forest.leaves tree = .ok leaves) :
    forest.enclosing tree = .ok ((leaves.filterMap forest.namedParent?).foldl addNew []) := by
  rw [enclosing, listed]
  unfold namedParent?
  rw [← List.filter_filterMap]
  rfl

/-! ### Numbers as places in a style sheet -/

/-- The nodes of rules side by side are listed by their numbers. -/
theorem Holds.preorder {forest : Forest} {first : Nat} {parent : Option Nat} {rules : List Rule}
    (held : forest.Holds first parent rules) :
    Preorder forest (numbers first rules) (List.range' first (sizeAll rules)) := by
  induction rules using sideBySide generalizing first parent with
  | nil => exact .nil
  | cons rule rules inside beside =>
    obtain ⟨node, below, after⟩ := held.cons
    rw [range'_sizeAll_cons]
    refine .cons ?_ (beside after)
    rw [children_of_node? node]
    exact inside below

theorem preorder_root (rules : List Rule) :
    Preorder (ofRules rules) [root] (List.range (ofRules rules).size) := by
  have whole : List.range (ofRules rules).size = root :: List.range' 1 (sizeAll rules) ++ [] := by
    rw [size_ofRules, Nat.add_comm, List.range_eq_range', List.range'_succ, List.append_nil]
    rfl
  rw [whole]
  exact .cons (holds_ofRules rules).preorder .nil

theorem Holds.leafNumbersAll_eq {forest : Forest} {first : Nat} {parent : Option Nat}
    {rules : List Rule} (held : forest.Holds first parent rules) :
    leafNumbersAll first rules = (List.range' first (sizeAll rules)).filter forest.isLeaf := by
  induction rules using sideBySide generalizing first parent with
  | nil => rfl
  | cons rule rules inside beside =>
    obtain ⟨node, below, after⟩ := held.cons
    have leaf : forest.isLeaf first = rule.kind.isLeaf := isLeaf_of_node? node
    rw [range'_sizeAll_cons, leafNumbersAll, leafNumbers_eq, inside below, beside after,
      List.filter_append, List.filter_cons, leaf]
    split <;> rfl

section Sheet

variable {rules : List Rule} {id child : NodeId}

theorem mem_leafNumbersAll_iff :
    id ∈ leafNumbersAll 1 rules ↔ (ofRules rules).isLeaf id = true := by
  rw [(holds_ofRules rules).leafNumbersAll_eq, List.mem_filter, List.mem_range'_1,
    and_iff_right_iff_imp]
  intro leaf
  obtain ⟨selector, declarations, kind, -⟩ := isLeaf_iff.1 leaf
  obtain ⟨-, same⟩ | ⟨above, rule, place, -⟩ := kind?_ofRules kind
  · cases same
  · have := place.bounds
    omega

/-- Only the sheet holds rules without a parent. -/
theorem parent?_eq_some_iff (inner : id ≠ root) :
    (ofRules rules).parent? child = some id ↔ child ∈ (ofRules rules).children id := by
  refine ⟨mem_children_of_parent?, fun member => ?_⟩
  obtain ⟨rfl, -⟩ | ⟨above, rule, -, -, inside, -, place⟩ := mem_children_ofRules member
  · exact absurd rfl inner
  · exact parent?_place place

theorem increasing_numbers (first : Nat) (rules : List Rule) :
    (numbers first rules).Pairwise (· < ·) := by
  induction rules generalizing first with
  | nil => exact .nil
  | cons rule rules ih =>
    refine .cons (fun later member => ?_) (ih _)
    have after : first + rule.size ≤ later := le_of_mem_numbers member
    have own := rule.size_eq
    show first < later
    omega

theorem increasing_children (rules : List Rule) (id : NodeId) :
    ((ofRules rules).children id).Pairwise (· < ·) := by
  cases found : (ofRules rules).node? id with
  | none =>
    rw [children, children?, found]
    exact .nil
  | some node =>
    obtain ⟨rfl, -⟩ | ⟨above, rule, place, -⟩ := node?_ofRules found
    · exact increasing_numbers 1 rules
    · rw [children_place place]
      exact increasing_numbers _ _

/-- The leaves that name a grouping rule as their parent are those directly in it. -/
theorem namedParent?_leaf_iff
    (named : ((ofRules rules).kind? id).elim false NodeKind.isNamed = true) :
    (child ∈ leafNumbersAll 1 rules ∧ (ofRules rules).namedParent? child = some id) ↔
      child ∈ (ofRules rules).children id ∧ (ofRules rules).isLeaf child = true := by
  have inner : id ≠ root := by
    rintro rfl
    cases named
  rw [mem_leafNumbersAll_iff, namedParent?, Option.filter_eq_some_iff, parent?_eq_some_iff inner,
    and_iff_left named, and_comm]

/-- Found from the leaves or from above, the first leaf directly in a grouping rule is the same. -/
theorem find?_leafNumbersAll
    (named : ((ofRules rules).kind? id).elim false NodeKind.isNamed = true) :
    ((leafNumbersAll 1 rules).find? fun leaf => (ofRules rules).namedParent? leaf = some id) =
      (ofRules rules).firstLeaf? id := by
  apply Option.ext
  intro leaf
  simp only [firstLeaf?, find?_eq_some_iff_of_increasing (increasing_leafNumbersAll 1 rules),
    find?_eq_some_iff_of_increasing (increasing_children rules id), decide_eq_true_eq,
    namedParent?_leaf_iff named, ← and_imp]

theorem mem_filterMap_namedParent? :
    id ∈ (leafNumbersAll 1 rules).filterMap (ofRules rules).namedParent? ↔
      (ofRules rules).Encloses id := by
  rw [List.mem_filterMap, Encloses, ← isNamed_iff]
  constructor
  · rintro ⟨leaf, member, made⟩
    have named := (Option.filter_eq_some_iff.1 made).2
    obtain ⟨belongs, own⟩ := (namedParent?_leaf_iff named).1 ⟨member, made⟩
    exact ⟨named, leaf, belongs, isLeaf_iff.1 own⟩
  · rintro ⟨named, leaf, belongs, own⟩
    exact ⟨leaf, (namedParent?_leaf_iff named).2 ⟨belongs, isLeaf_iff.2 own⟩⟩

/-- The parents of leaves that are found from the leaves, seen from above. -/
theorem exists_enclosing_ofRules (rules : List Rule) :
    ∃ ids, (ofRules rules).enclosing (some root) = .ok ids ∧
      (∀ id, id ∈ ids ↔ (ofRules rules).Encloses id) ∧
      ids.Pairwise (ofRules rules).LeafBefore := by
  have all (id : NodeId) : id ∈
      ((leafNumbersAll 1 rules).filterMap (ofRules rules).namedParent?).foldl addNew [] ↔
      (ofRules rules).Encloses id := by
    rw [mem_foldl_addNew, mem_filterMap_namedParent?]
    simp
  have ordered :=
    @sourceBefore_foldl_addNew (ofRules rules).namedParent? (leafNumbersAll 1 rules) [] []
      (increasing_leafNumbersAll 1 rules) (by simp) .nil
  refine ⟨_, enclosing_eq_of_leaves (leaves_ofRules rules), all, ordered.imp_of_mem ?_⟩
  intro id other member belongs before
  have first := find?_leafNumbersAll (isNamed_iff.2 ((all id).1 member).1)
  have second := find?_leafNumbersAll (isNamed_iff.2 ((all other).1 belongs).1)
  rw [LeafBefore, ← first, ← second]
  exact before

end Sheet

theorem LeafBefore.irrefl {forest : Forest} {id : NodeId} : ¬forest.LeafBefore id id := by
  rintro ⟨leaf, later, first, second, less⟩
  rw [first] at second
  obtain rfl := Option.some.inj second
  exact Nat.lt_irrefl _ less

/-- Keyframes hold nothing but their steps, so no leaf is directly in them. -/
theorem WellShaped.not_isKeyframes {forest : Forest} (shaped : forest.WellShaped) {id : NodeId}
    (encloses : forest.Encloses id) :
    (forest.kind? id).elim false NodeKind.isKeyframes = false := by
  obtain ⟨-, child, member, selector, declarations, kind, -⟩ := encloses
  rw [← shaped.keyframes id child member, kind]
  rfl

end Forest

/-- The grouping rules listed for a style sheet are those with a condition or a name that have a
leaf directly in them, each once and in the order of the first such leaf; numbers tell the order of
the sheet. No keyframes, no style rule, not the sheet, and nothing that has leaves only further down
is among them. A sheet without such a list is one with a number that is too long to read. -/
theorem enclosing_ofText (css : Text) :
    (∃ rules notes ids, Rule.ofText css = .ok (rules, notes) ∧
      (Forest.ofRules rules).enclosing (some Forest.root) = .ok ids ∧ ids.Nodup ∧
      (∀ id, id ∈ ids ↔ (Forest.ofRules rules).Encloses id) ∧
      ids.Pairwise (Forest.ofRules rules).LeafBefore ∧
      Forest.Preorder (Forest.ofRules rules) [Forest.root]
      (List.range (Forest.ofRules rules).size) ∧
      ∀ id, (id = Forest.root ∨ ((Forest.ofRules rules).kind? id).elim false NodeKind.isStyle =
        true ∨
          ((Forest.ofRules rules).kind? id).elim false NodeKind.isKeyframes = true ∨
          ∀ child ∈ (Forest.ofRules rules).children id,
          (Forest.ofRules rules).isLeaf child = false) → id ∉ ids) ∨
    ∃ digits, overlongNumeral? (scan css) = some digits ∧
      Rule.ofText css = .error (.overlongNumeral digits) := by
  rcases Item.ofText_cases css with ⟨items, read⟩ | ⟨digits, overlong, failed⟩
  · have shaped := Forest.wellShaped_ofRules (Rule.regular_ofItems items)
    obtain ⟨ids, listed, all, ordered⟩ := Forest.exists_enclosing_ofRules (Rule.ofItems items).1
    refine .inl ⟨_, _, ids, by rw [Rule.ofText, read]; rfl, listed, ?_, all, ordered,
      Forest.preorder_root _, ?_⟩
    · refine ordered.imp fun before => ?_
      rintro rfl
      exact Forest.LeafBefore.irrefl before
    · intro id excluded member
      have encloses := (all id).1 member
      obtain ⟨⟨keyword, condition, name, kind, _⟩, child, belongs, own⟩ := (all id).1 member
      rcases excluded with rfl | style | frames | deeper
      · cases kind
      · rw [kind] at style
        cases style
      · rw [shaped.not_isKeyframes encloses] at frames
        cases frames
      · have leaf := Forest.isLeaf_iff.2 own
        rw [deeper child belongs] at leaf
        cases leaf
  · exact .inr ⟨digits, overlong, by rw [Rule.ofText, failed]; rfl⟩

end StyleScore
