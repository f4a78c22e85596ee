import StyleScore.Proofs.Text.Trim
import StyleScore.Proofs.Tree.Building
import StyleScore.Proofs.Tree.Layout

/-!
The shape of the tree of a style sheet.
-/
namespace StyleScore

/-- The keywords of keyframes, with or without the name of a vendor. -/
def endsInKeyframes (keyword : Text) : Bool := Text.endsWith keyword "keyframes".toList

namespace NodeKind

/-- A step of keyframes. -/
def isKeyframe : NodeKind → Bool
  | keyframe _ _ => true
  | _ => false

/-- A grouping rule that holds the steps of keyframes. -/
def isKeyframes : NodeKind → Bool
  | grouping keyword _ _ => endsInKeyframes keyword
  | _ => false

/-- The texts of a node that come from the header of a rule. -/
def headerTexts : NodeKind → List Text
  | sheet => []
  | style selector _ => selector.toList
  | grouping _ condition name => condition.toList ++ name.toList
  | statement _ header => [header]
  | keyframe key _ => [key]

end NodeKind

/-- The keywords of the at-rules whose block holds rules. -/
def groupingKeywords : List Text :=
  ["media".toList, "supports".toList, "scope".toList, "starting-style".toList, "document".toList,
    "container".toList, "layer".toList]

/-- What a grouping rule of a style sheet says of itself. Only keyframes keep a keyword that is not
among the grouping ones; the header is a name for keyframes and layers and a condition otherwise. -/
structure GroupingForm (keyword : Text) (condition name : Option Text) : Prop where
  keyword_mem : endsInKeyframes keyword = false → keyword ∈ groupingKeywords
  conditional : endsInKeyframes keyword = false →
    ((condition.isSome ∧ name = none) ↔ keyword ≠ "layer".toList)
  named : endsInKeyframes keyword ∨ keyword = "layer".toList → condition = none
  name_nonempty : name ≠ some []

namespace Rule

/-- What holds of every rule of a style sheet by itself. -/
structure Regular (rule : Rule) : Prop where
  grouping : ∀ keyword condition name, rule.kind = .grouping keyword condition name →
    GroupingForm keyword condition name
  texts : ∀ text ∈ rule.kind.headerTexts, text.IsTrimmed
  inner : ∀ child ∈ rule.inner, child.kind.isKeyframe = rule.kind.isKeyframes

/-- `found` is among the rules or below one of them. -/
inductive Within (found : Rule) : List Rule → Prop
  | here {rules} : Within found (found :: rules)
  | inside {rule rules} (within : Within found rule.inner) : Within found (rule :: rules)
  | beside {rule rules} (within : Within found rules) : Within found (rule :: rules)

theorem Place.within {first id : Nat} {parent above : Option Nat} {rules : List Rule} {found : Rule}
    (place : Place first parent rules id above found) : Within found rules := by
  induction place with
  | here => exact .here
  | inside place ih => exact .inside ih
  | beside place ih => exact .beside ih

theorem isTrimmed_written (components : List Component) : (written components).IsTrimmed :=
  Text.isTrimmed_trim _

theorem nonempty?_ne (text : Text) : nonempty? text ≠ some [] := by
  unfold nonempty?
  split <;> simp_all

theorem isTrimmed_of_mem_nonempty? {text : Text} (components : List Component)
    (member : text ∈ (nonempty? (written components)).toList) : text.IsTrimmed := by
  unfold nonempty? at member
  split at member
  · simp at member
  · obtain rfl : text = written components := by simpa using member
    exact isTrimmed_written components

/-- The form of a block says what its keyword is. -/
theorem blockForm_rules {keyword name : Text} {conditional : Bool}
    (form : blockForm keyword = .rules name conditional) :
    name ∈ groupingKeywords ∧ endsInKeyframes name = false ∧
      (conditional = true ↔ name ≠ "layer".toList) := by
  unfold blockForm at form
  split at form
  · cases form
  split at form
  · next listed =>
    obtain ⟨rfl, rfl⟩ := BlockForm.rules.inj form
    have each : ∀ name ∈ conditionKeywords, name ∈ groupingKeywords ∧
        endsInKeyframes name = false ∧ (true = true ↔ name ≠ "layer".toList) := by
      decide
    exact each _ (by simpa using listed)
  split at form
  · next layer =>
    obtain ⟨rfl, rfl⟩ := BlockForm.rules.inj form
    rw [layer]
    decide
  · cases form

theorem blockForm_keyframes {keyword : Text} (form : blockForm keyword = .keyframes) :
    endsInKeyframes keyword = true := by
  unfold blockForm at form
  split at form
  · next ends => exact ends
  split at form
  · cases form
  split at form <;> cases form

theorem within_iff {found : Rule} {rules : List Rule} :
    Within found rules ↔ ∃ rule ∈ rules, found = rule ∨ Within found rule.inner := by
  constructor
  · intro within
    induction within with
    | here => exact ⟨found, by simp, .inl rfl⟩
    | @inside rule rules within ih => exact ⟨rule, by simp, .inr within⟩
    | beside within ih =>
      obtain ⟨rule, member, below⟩ := ih
      exact ⟨rule, by simp [member], below⟩
  · rintro ⟨rule, member, below⟩
    induction rules with
    | nil => simp at member
    | cons head rest ih =>
      rcases List.mem_cons.1 member with rfl | later
      · rcases below with rfl | within
        · exact .here
        · exact .inside within
      · exact .beside (ih later)

/-- A rule is regular and so is every rule below it. -/
def RegularThroughout (rule : Rule) : Prop :=
  rule.Regular ∧ ∀ found, Within found rule.inner → found.Regular

theorem Regular.throughout {rule : Rule} (own : rule.Regular)
    (below : ∀ child ∈ rule.inner, child.RegularThroughout) : rule.RegularThroughout := by
  refine ⟨own, fun found within => ?_⟩
  obtain ⟨child, member, rfl | deeper⟩ := within_iff.1 within
  · exact (below _ member).1
  · exact (below child member).2 found deeper

theorem regular_style {selector : Text} (declarations : List (Text × Text)) {rules : List Rule}
    (trimmed : selector.IsTrimmed) (plain : ∀ rule ∈ rules, rule.kind.isKeyframe = false) :
    (style selector declarations rules).Regular where
  grouping := by
    intro keyword condition name same
    cases same
  texts := by
    intro text member
    obtain rfl : text = selector := by simpa [kind, NodeKind.headerTexts] using member
    exact trimmed
  inner := plain

theorem regular_statement (keyword : Text) {header : Text} (trimmed : header.IsTrimmed) :
    (statement keyword header).Regular where
  grouping := by
    intro keyword condition name same
    cases same
  texts := by
    intro text member
    obtain rfl : text = header := by simpa [kind, NodeKind.headerTexts] using member
    exact trimmed
  inner := by
    intro child member
    cases member

theorem regular_keyframe {key : Text} (declarations : List (Text × Text))
    (trimmed : key.IsTrimmed) :
    (keyframe key declarations).Regular where
  grouping := by
    intro keyword condition name same
    cases same
  texts := by
    intro text member
    obtain rfl : text = key := by simpa [kind, NodeKind.headerTexts] using member
    exact trimmed
  inner := by
    intro child member
    cases member

theorem exists_of_mem_keyframes {rule : Rule} {items : List Item}
    (member : rule ∈ keyframes items) :
    ∃ header content,
      rule = .keyframe (written header) (declarations (Item.declarationItems content)) := by
  obtain ⟨item, -, made⟩ := List.mem_filterMap.1 member
  split at made
  · next header content => exact ⟨header, content, (Option.some.inj made).symm⟩
  · cases made

theorem regular_keyframes {keyword : Text} (header : List Component) (items : List Item)
    (ends : endsInKeyframes keyword = true) :
    (grouping keyword none (nonempty? (written header)) (keyframes items)).Regular where
  grouping := by
    rintro keyword condition name ⟨rfl, rfl, rfl⟩
    exact ⟨fun other => absurd ends (by simp [other]), fun other => absurd ends (by simp [other]),
      fun _ => rfl, nonempty?_ne _⟩
  texts := by
    intro text member
    exact isTrimmed_of_mem_nonempty? header (by simpa [kind, NodeKind.headerTexts] using member)
  inner := by
    intro child member
    obtain ⟨header, content, rfl⟩ := exists_of_mem_keyframes member
    exact ends.symm

theorem regular_groupingOf {keyword : Text} {conditional : Bool} (header : List Component)
    {rules : List Rule} (listed : keyword ∈ groupingKeywords)
    (ends : endsInKeyframes keyword = false)
    (layer : conditional = true ↔ keyword ≠ "layer".toList)
    (plain : ∀ rule ∈ rules, rule.kind.isKeyframe = false) :
    (groupingOf keyword conditional header rules).Regular := by
  cases conditional with
  | true =>
    refine ⟨?_, ?_, ?_⟩
    · rintro keyword condition name ⟨rfl, rfl, rfl⟩
      refine ⟨fun _ => listed, fun _ => by simpa using layer.1 rfl, ?_, by simp⟩
      rintro (frames | same)
      · simp [ends] at frames
      · exact absurd same (layer.1 rfl)
    · intro text member
      obtain rfl : text = written header := by
        simpa [groupingOf, kind, NodeKind.headerTexts] using member
      exact isTrimmed_written header
    · intro child member
      exact (plain child member).trans ends.symm
  | false =>
    refine ⟨?_, ?_, ?_⟩
    · rintro keyword condition name ⟨rfl, rfl, rfl⟩
      exact ⟨fun _ => listed, fun _ => by simpa using layer, fun _ => rfl, nonempty?_ne _⟩
    · intro text member
      exact isTrimmed_of_mem_nonempty? header
        (by simpa [groupingOf, kind, NodeKind.headerTexts] using member)
    · intro child member
      exact (plain child member).trans ends.symm

theorem inner_groupingOf (keyword : Text) (conditional : Bool) (header : List Component)
    (rules : List Rule) : (groupingOf keyword conditional header rules).inner = rules := by
  cases conditional <;> rfl

/-- Rules made from items are regular at every depth, and no keyframe is among them. -/
theorem regular_ofItems (items : List Item) :
    ∀ rule ∈ (ofItems items).1, rule.kind.isKeyframe = false ∧ rule.RegularThroughout := by
  induction items using Item.inwards with
  | nil => simp [ofItems]
  | cons item rest inRule inAtRule after =>
    intro rule member
    rw [fst_ofItems] at member
    obtain ⟨source, belongs, made⟩ := List.mem_filterMap.1 member
    rcases List.mem_cons.1 belongs with rfl | later
    · obtain ⟨header, content, same, rfl⟩ | ⟨keyword, header, content, same, -, rfl⟩ |
        ⟨keyword, header, content, same, form, rfl⟩ |
        ⟨keyword, header, content, name, conditional, same, form, rfl⟩ := ofItem?_cases made
      · have below := inRule header content same
        exact ⟨rfl, (regular_style _ (isTrimmed_written header) fun child belongs =>
          (below child belongs).1).throughout fun child belongs => (below child belongs).2⟩
      · exact ⟨rfl, (regular_statement _ (isTrimmed_written header)).throughout (by simp [inner])⟩
      · refine ⟨rfl, (regular_keyframes header _ (blockForm_keyframes form)).throughout ?_⟩
        intro child belongs
        obtain ⟨header, content, rfl⟩ := exists_of_mem_keyframes belongs
        exact (regular_keyframe _ (isTrimmed_written header)).throughout (by simp [inner])
      · have below := inAtRule keyword header content same
        obtain ⟨listed, ends, layer⟩ := blockForm_rules form
        refine ⟨by cases conditional <;> rfl, (regular_groupingOf header listed ends layer
          fun child belongs => (below child belongs).1).throughout ?_⟩
        rw [inner_groupingOf]
        exact fun child belongs => (below child belongs).2
    · exact after rule (by rw [fst_ofItems]; exact List.mem_filterMap.2 ⟨source, later, made⟩)

end Rule

namespace Forest
open Rule

/-- The shape of the tree of a style sheet. -/
structure WellShaped (forest : Forest) : Prop where
  /-- The sheet is the root of the tree and nothing else is a sheet. -/
  sheet : ∀ id, forest.kind? id = some .sheet ↔ id = root
  /-- Children come after what they stand in, and they are nodes. -/
  forward : ∀ id, ∀ child ∈ forest.children id, id < child ∧ child < forest.size
  /-- Every node but the sheet is a child exactly once. -/
  once : ∀ id, id ≠ root → id < forest.size →
    ((List.range forest.size).flatMap forest.children).count id = 1
  parent_top : ∀ child ∈ forest.children root, forest.parent? child = none
  parent_inner : ∀ id, id ≠ root → ∀ child ∈ forest.children id, forest.parent? child = some id
  /-- Keyframes hold their steps and nothing else, and no other node holds one. -/
  keyframes : ∀ id, ∀ child ∈ forest.children id,
    (forest.kind? child).elim false NodeKind.isKeyframe =
      (forest.kind? id).elim false NodeKind.isKeyframes
  grouping : ∀ id keyword condition name,
    forest.kind? id = some (.grouping keyword condition name) → GroupingForm keyword condition name
  trimmed : ∀ id kind, forest.kind? id = some kind → ∀ text ∈ kind.headerTexts, text.IsTrimmed

theorem kind?_place {rules : List Rule} {id : Nat} {above : Option Nat} {rule : Rule}
    (place : Place 1 none rules id above rule) : (ofRules rules).kind? id = some rule.kind := by
  rw [kind?, (holds_ofRules rules).node? place, Option.map_some]

theorem parent?_place {rules : List Rule} {id : Nat} {above : Option Nat} {rule : Rule}
    (place : Place 1 none rules id above rule) : (ofRules rules).parent? id = above := by
  rw [parent?, (holds_ofRules rules).node? place, Option.bind_some]

/-- A kind is that of the sheet or of a rule at its place. -/
theorem kind?_ofRules {rules : List Rule} {id : Nat} {kind : NodeKind}
    (found : (ofRules rules).kind? id = some kind) :
    (id = root ∧ kind = .sheet) ∨ ∃ above rule, Place 1 none rules id above rule ∧
      kind = rule.kind := by
  obtain ⟨node, exists_node, rfl⟩ := Option.map_eq_some_iff.1 found
  obtain ⟨rfl, rfl⟩ | ⟨above, rule, place, rfl⟩ := node?_ofRules exists_node
  · exact .inl ⟨rfl, rfl⟩
  · exact .inr ⟨above, rule, place, rfl⟩

theorem regular_of_place {rules : List Rule} {id : Nat} {above : Option Nat} {rule : Rule}
    (regular : ∀ rule ∈ rules, rule.kind.isKeyframe = false ∧ rule.RegularThroughout)
    (place : Place 1 none rules id above rule) : rule.Regular := by
  obtain ⟨outer, member, rfl | within⟩ := within_iff.1 place.within
  · exact (regular _ member).2.1
  · exact (regular outer member).2.2 rule within

theorem wellShaped_ofRules {rules : List Rule}
    (regular : ∀ rule ∈ rules, rule.kind.isKeyframe = false ∧ rule.RegularThroughout) :
    (ofRules rules).WellShaped where
  sheet id := by
    constructor
    · intro found
      obtain ⟨rfl, -⟩ | ⟨above, rule, place, same⟩ := kind?_ofRules found
      · rfl
      · cases rule <;> cases same
    · rintro rfl
      rfl
  forward id child member := by
    obtain ⟨rfl, rule, -, place⟩ | ⟨above, rule, -, after, inside, -, place⟩ :=
      mem_children_ofRules member
    · exact ⟨place.bounds.1, lt_size_of_place place⟩
    · exact ⟨after, lt_size_of_place place⟩
  once id inner upper := by
    rw [(allChildren_perm rules).count_eq]
    rw [size_ofRules] at upper
    have lower : 1 ≤ id := Nat.pos_of_ne_zero inner
    have member : id ∈ List.range' 1 (sizeAll rules) := List.mem_range'_1.2 ⟨lower, upper⟩
    rw [(List.nodup_range' ..).count, if_pos member]
  parent_top child member := by
    obtain ⟨-, rule, -, place⟩ | ⟨above, rule, place, -⟩ := mem_children_ofRules member
    · exact parent?_place place
    · exact absurd place.bounds.1 (by decide)
  parent_inner id inner child member := by
    obtain ⟨rfl, -⟩ | ⟨above, rule, -, -, inside, -, place⟩ := mem_children_ofRules member
    · exact absurd rfl inner
    · exact parent?_place place
  keyframes id child member := by
    obtain ⟨rfl, rule, belongs, place⟩ | ⟨above, rule, around, -, inside, belongs, place⟩ :=
      mem_children_ofRules member
    · rw [kind?_place place]
      exact (regular rule belongs).1
    · rw [kind?_place place, kind?_place around]
      exact (regular_of_place regular around).inner inside belongs
  grouping id keyword condition name found := by
    obtain ⟨-, same⟩ | ⟨above, rule, place, same⟩ := kind?_ofRules found
    · cases same
    · exact (regular_of_place regular place).grouping keyword condition name same.symm
  trimmed id kind found text member := by
    obtain ⟨-, rfl⟩ | ⟨above, rule, place, rfl⟩ := kind?_ofRules found
    · cases member
    · exact (regular_of_place regular place).texts text member

end Forest

/-- Reading a style sheet gives a well-shaped tree, unless a number in the sheet is too long to be
read. -/
theorem wellShaped_ofText (css : Text) :
    (∃ rules notes, Rule.ofText css = .ok (rules, notes) ∧ (Forest.ofRules rules).WellShaped) ∨
      ∃ digits, overlongNumeral? (scan css) = some digits ∧
        Rule.ofText css = .error (.overlongNumeral digits) := by
  rcases Item.ofText_cases css with ⟨items, read⟩ | ⟨digits, overlong, failed⟩
  · refine .inl ⟨_, _, by rw [Rule.ofText, read]; rfl,
      Forest.wellShaped_ofRules (Rule.regular_ofItems items)⟩
  · exact .inr ⟨digits, overlong, by rw [Rule.ofText, failed]; rfl⟩

end StyleScore
