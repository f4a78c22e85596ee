import StyleScore.Proofs.Outcome
import StyleScore.Proofs.Tree.Firsts
import StyleScore.Proofs.Tree.Shape
import StyleScore.Report.Score

/-!
The leaves of a style sheet. The walk through its tree finds the rules whose header is not blank, in
style rules and grouping at-rules to any depth, once each and in the order of the sheet.
-/
namespace StyleScore

namespace Rule

mutual

/-- The numbers of the leaves in and below a rule with the number `id`. -/
def leafNumbers (id : Nat) : Rule → List Nat
  | style selector _ rules => (if selector ≠ [] then [id] else []) ++ leafNumbersAll (id + 1) rules
  | grouping _ _ _ rules => leafNumbersAll (id + 1) rules
  | statement _ _ => []
  | keyframe _ _ => []

def leafNumbersAll (first : Nat) : List Rule → List Nat
  | [] => []
  | rule :: rules => leafNumbers first rule ++ leafNumbersAll (first + rule.size) rules

end

mutual

/-- The selectors of the leaves in and below a rule. -/
def leafSelectors : Rule → List Text
  | style selector _ rules => (if selector ≠ [] then [selector] else []) ++ leafSelectorsAll rules
  | grouping _ _ _ rules => leafSelectorsAll rules
  | statement _ _ => []
  | keyframe _ _ => []

def leafSelectorsAll : List Rule → List Text
  | [] => []
  | rule :: rules => leafSelectors rule ++ leafSelectorsAll rules

end

theorem leafNumbers_eq (id : Nat) (rule : Rule) :
    leafNumbers id rule = (if rule.kind.isLeaf then [id] else []) ++
      leafNumbersAll (id + 1) rule.inner := by
  cases rule with
  | style selector declarations rules =>
    by_cases empty : selector = [] <;> simp [leafNumbers, kind, inner, NodeKind.isLeaf, empty]
  | _ => rfl

theorem bounds_of_mem_leafNumbersAll {first id : Nat} {rules : List Rule}
    (member : id ∈ leafNumbersAll first rules) : first ≤ id ∧ id < first + sizeAll rules := by
  induction rules using sideBySide generalizing first with
  | nil => simp [leafNumbersAll] at member
  | cons rule rules inside beside =>
    have own := rule.size_eq
    rw [leafNumbersAll, leafNumbers_eq, List.mem_append, List.mem_append] at member
    simp only [sizeAll]
    rcases member with (here | below) | later
    · split at here
      · obtain rfl : id = first := by simpa using here
        omega
      · simp at here
    · have := inside below
      omega
    · have := beside later
      omega

/-- The leaves are numbered in the order of the style sheet. -/
theorem increasing_leafNumbersAll (first : Nat) (rules : List Rule) :
    (leafNumbersAll first rules).Pairwise (· < ·) := by
  induction rules using sideBySide generalizing first with
  | nil => exact .nil
  | cons rule rules inside beside =>
    have own := rule.size_eq
    have here : ∀ id ∈ (if rule.kind.isLeaf then [first] else []), id = first := by
      intro id member
      split at member
      · simpa using member
      · simp at member
    rw [leafNumbersAll, leafNumbers_eq, List.append_assoc, List.pairwise_append,
      List.pairwise_append]
    refine ⟨?_, ⟨inside _, beside _, ?_⟩, ?_⟩
    · split <;> simp
    · intro low below high later
      have := bounds_of_mem_leafNumbersAll below
      have := bounds_of_mem_leafNumbersAll later
      omega
    · intro low start high after
      have := here low start
      rcases List.mem_append.1 after with below | later
      · have := bounds_of_mem_leafNumbersAll below
        omega
      · have := bounds_of_mem_leafNumbersAll later
        omega

theorem Place.mem_leafNumbersAll {first id : Nat} {parent above : Option Nat} {rules : List Rule}
    {found : Rule} (place : Place first parent rules id above found)
    (leaf : found.kind.isLeaf = true) :
    id ∈ leafNumbersAll first rules := by
  induction place with
  | here =>
    rw [leafNumbersAll, leafNumbers_eq, if_pos leaf]
    simp
  | inside place ih =>
    rw [leafNumbersAll, leafNumbers_eq]
    exact List.mem_append_left _ (List.mem_append_right _ (ih leaf))
  | beside place ih =>
    rw [leafNumbersAll]
    exact List.mem_append_right _ (ih leaf)

end Rule

namespace Forest
open Rule

theorem isLeaf_of_node? {forest : Forest} {id : Nat} {node : Node}
    (found : forest.node? id = some node) :
    forest.isLeaf id = node.kind.isLeaf := by
  simp [isLeaf, kind?, found]

/-- One step of the walk adds the leaves in and below a rule to those found before. -/
theorem leavesWithin_step {forest : Forest} {first : Nat} {rule : Rule} (found inside : List Nat)
    (leaf : forest.isLeaf first = rule.kind.isLeaf)
    (walked : inside = leafNumbersAll (first + 1) rule.inner) (before : ∀ id ∈ found, id < first)
    (distinct : found.Nodup) :
    inside.foldl addNew (if forest.isLeaf first then addNew found first else found) =
        found ++ leafNumbers first rule ∧
      (found ++ leafNumbers first rule).Nodup := by
  have alone : leafNumbersAll first [rule] = leafNumbers first rule := List.append_nil _
  have whole : (found ++ leafNumbers first rule).Nodup := by
    rw [← alone]
    refine List.nodup_append.2 ⟨distinct, (increasing_leafNumbersAll first [rule]).imp Nat.ne_of_lt,
      ?_⟩
    rintro low member high later rfl
    have := before low member
    have := bounds_of_mem_leafNumbersAll later
    omega
  refine ⟨?_, whole⟩
  rw [← foldl_addNew _ _ whole, leafNumbers_eq, List.foldl_append, leaf, walked]
  split <;> rfl

/-- The walk adds the leaves of rules side by side to those found before. -/
theorem leavesWithin_fold {forest : Forest} {first : Nat} {parent : Option Nat} {rules : List Rule}
    (depth : Nat) (deep : sizeAll rules ≤ depth) (held : forest.Holds first parent rules)
    (found : List Nat) (before : ∀ id ∈ found, id < first) (distinct : found.Nodup) :
    (numbers first rules).foldl (fun leaves id =>
      (forest.leavesWithin depth (forest.children id)).foldl addNew
        (if forest.isLeaf id then addNew leaves id else leaves)) found =
      found ++ leafNumbersAll first rules := by
  induction rules using sideBySide generalizing first parent depth found with
  | nil => simp [numbers, leafNumbersAll]
  | cons rule rules inside beside =>
    have own := rule.size_eq
    simp only [sizeAll] at deep
    obtain ⟨node, below, after⟩ := held.cons
    -- The walk below the rule may go one level less deep, which is enough for what is in it.
    have walked : forest.leavesWithin depth (forest.children first) =
        leafNumbersAll (first + 1) rule.inner := by
      obtain ⟨depth, rfl⟩ : ∃ less, depth = less + 1 := ⟨depth - 1, by omega⟩
      rw [children_of_node? node]
      exact inside depth (by omega) below [] (by simp) .nil
    obtain ⟨step, distinct⟩ :=
      leavesWithin_step found _ (isLeaf_of_node? node) walked before distinct
    rw [numbers, List.foldl_cons, step, leafNumbersAll, ← List.append_assoc]
    refine beside depth (by omega) after _ ?_ distinct
    intro id member
    rcases List.mem_append.1 member with earlier | here
    · have := before id earlier
      omega
    · have alone : id ∈ leafNumbersAll first [rule] := by simpa [leafNumbersAll] using here
      have := bounds_of_mem_leafNumbersAll alone
      simp only [sizeAll] at this
      omega

/-- The walk through the tree of a style sheet finds its leaves in order. -/
theorem leaves_ofRules (rules : List Rule) :
    (ofRules rules).leaves (some root) = .ok (leafNumbersAll 1 rules) := by
  have deep : sizeAll rules ≤ (ofRules rules).size := by
    rw [size_ofRules]
    omega
  have walk := leavesWithin_fold (ofRules rules).size deep (holds_ofRules rules) [] (by simp) .nil
  exact congrArg Except.ok walk

theorem selector?_leafNumbersAll {forest : Forest} {first : Nat} {parent : Option Nat}
    {rules : List Rule} (held : forest.Holds first parent rules) :
    (leafNumbersAll first rules).map forest.selector? = (leafSelectorsAll rules).map some := by
  induction rules using sideBySide generalizing first parent with
  | nil => rfl
  | cons rule rules inside beside =>
    obtain ⟨node, below, after⟩ := held.cons
    have own : (leafNumbers first rule).map forest.selector? = (leafSelectors rule).map some := by
      have inner := inside below
      cases rule with
      | style selector declarations rules =>
        have selector? : forest.selector? first = some selector := by
          simp only [Forest.selector?, kind?, node]
          rfl
        by_cases empty : selector = [] <;>
          simp_all [leafNumbers, leafSelectors, Rule.inner]
      | grouping keyword condition name rules => exact inner
      | statement keyword header => rfl
      | keyframe key declarations => rfl
    rw [leafNumbersAll, leafSelectorsAll, List.map_append, List.map_append, own, beside after]

/-- A leaf has a selector. -/
theorem exists_selector?_of_mem_leafNumbersAll {rules : List Rule} {id : NodeId}
    (leaf : id ∈ leafNumbersAll 1 rules) :
    ∃ selector, (ofRules rules).selector? id = some selector := by
  have own : (ofRules rules).selector? id ∈ (leafSelectorsAll rules).map some := by
    rw [← selector?_leafNumbersAll (holds_ofRules rules)]
    exact List.mem_map_of_mem leaf
  obtain ⟨selector, -, found⟩ := List.mem_map.1 own
  exact ⟨selector, found.symm⟩

theorem selectorText_weigh {forest : Forest} {id : NodeId} {rule : WeightedRule}
    (success : forest.weigh id = .ok rule) : rule.selectorText = forest.selector? id := by
  obtain ⟨resolved, -, success⟩ := bind_eq_ok.1 success
  obtain ⟨complexity, -, success⟩ := bind_eq_ok.1 success
  rw [← Except.ok.inj success]

/-- Weighing keeps the selectors of the rules in their order. -/
theorem selectorText_weighAll {forest : Forest} {ids : List NodeId} {weighted : List WeightedRule}
    (success : forest.weighAll ids = .ok weighted) :
    weighted.map WeightedRule.selectorText = ids.map forest.selector? := by
  induction ids generalizing weighted with
  | nil =>
    cases success
    rfl
  | cons id ids ih =>
    obtain ⟨rule, weighed, success⟩ := bind_eq_ok.1 success
    obtain ⟨rules, rest, success⟩ := bind_eq_ok.1 success
    rw [← Except.ok.inj success, List.map_cons, List.map_cons, selectorText_weigh weighed, ih rest]

end Forest

namespace Item
open Component

/-- The at-rules whose block holds rules: not keyframes, and named by a grouping keyword once the
name of a vendor is taken away. -/
def isGrouping (keyword : Text) : Bool :=
  !endsInKeyframes (Text.asciiLower keyword) &&
    groupingKeywords.contains (Rule.withoutVendor (Text.asciiLower keyword))

/-- The headers of rules in the order of the style sheet: each before those in its block, with those
in the blocks of grouping at-rules. -/
def ruleHeaders : List Item → List (List Component)
  | [] => []
  | .rule header content :: rest => header :: ruleHeaders (blockItems content) ++ ruleHeaders rest
  | .atRule keyword _ (some content) :: rest =>
    (if isGrouping keyword then ruleHeaders (ruleItems false content) else []) ++ ruleHeaders rest
  | .atRule _ _ none :: rest => ruleHeaders rest
  | .declaration _ _ :: rest => ruleHeaders rest
  | .fault _ _ :: rest => ruleHeaders rest
termination_by items => totalWeight items
decreasing_by
  · exact totalWeight_blockItems_lt header content rest
  · exact totalWeight_lt_cons _ rest
  · exact totalWeight_ruleItems_lt _ _ content rest
  · exact totalWeight_lt_cons _ rest
  · exact totalWeight_lt_cons _ rest
  · exact totalWeight_lt_cons _ rest
  · exact totalWeight_lt_cons _ rest

/-- A header with a character that is not blank. -/
def isSolid (header : List Component) : Bool := (writeAll header).any fun c => !Text.isBlank c

theorem isSolid_iff (header : List Component) :
    isSolid header = true ↔ Rule.written header ≠ [] := by
  rw [Rule.written, ne_eq, Text.trim_eq_nil_iff, isSolid, List.any_eq_true]
  simp

/-- Exactly the blocks of grouping at-rules hold rules. -/
theorem isGrouping_iff (keyword : Text) :
    isGrouping keyword = true ↔
      ∃ name conditional, Rule.blockForm (Text.asciiLower keyword) = .rules name conditional := by
  have listed (name : Text) : groupingKeywords.contains name =
      (Rule.conditionKeywords.contains name || name = "layer".toList) := by
    simp [groupingKeywords, Rule.conditionKeywords, Bool.or_assoc]
  unfold isGrouping Rule.blockForm
  rw [listed]
  change _ ↔ ∃ name conditional,
    (if endsInKeyframes (Text.asciiLower keyword) = true then _ else _) = _
  by_cases ends : endsInKeyframes (Text.asciiLower keyword) = true
  · rw [if_pos ends]
    simp [ends]
  · rw [if_neg ends]
    rw [Bool.not_eq_true] at ends
    split
    · next conditional =>
      rw [ends, conditional]
      simp
    · next other =>
      rw [Bool.not_eq_true] at other
      split
      · next layer =>
        rw [ends, layer]
        simp
      · next differs =>
        rw [other, decide_eq_false differs]
        simp

theorem leafSelectorsAll_keyframes (items : List Item) :
    Rule.leafSelectorsAll (Rule.keyframes items) = [] := by
  have plain : ∀ rule ∈ Rule.keyframes items, rule.leafSelectors = [] := by
    intro rule member
    obtain ⟨header, content, rfl⟩ := Rule.exists_of_mem_keyframes member
    rfl
  generalize Rule.keyframes items = rules at plain
  induction rules with
  | nil => rfl
  | cons rule rules ih =>
    rw [Rule.leafSelectorsAll, plain rule (by simp), List.nil_append]
    exact ih fun other member => plain other (List.mem_cons_of_mem rule member)

/-- The leaves of the tree made of items are the headers with something in them. -/
theorem leafSelectorsAll_ofItems (items : List Item) :
    Rule.leafSelectorsAll (Rule.ofItems items).1 =
      ((ruleHeaders items).filter isSolid).map Rule.written := by
  induction items using Item.inwards with
  | nil => simp [Rule.ofItems, Rule.leafSelectorsAll, ruleHeaders]
  | cons item rest inRule inAtRule after =>
    rw [Rule.fst_ofItems, List.filterMap_cons, ← Rule.fst_ofItems]
    cases item with
    | fault position cause => simpa [Rule.ofItem?, ruleHeaders] using after
    | declaration name value => simpa [Rule.ofItem?, ruleHeaders] using after
    | rule header content =>
      have inside := inRule header content rfl
      have own := isSolid_iff header
      by_cases solid : isSolid header = true <;>
        simp_all [Rule.ofItem?, ruleHeaders, Rule.leafSelectorsAll, Rule.leafSelectors]
    | atRule keyword header content =>
      cases content with
      | none =>
        simpa [Rule.ofItem?, ruleHeaders, Rule.leafSelectorsAll, Rule.leafSelectors] using after
      | some content =>
        have inside := inAtRule keyword header content rfl
        have grouping := isGrouping_iff keyword
        rw [ruleHeaders, List.filter_append, List.map_append, ← after]
        cases form : Rule.blockForm (Text.asciiLower keyword) with
        | keyframes =>
          have frames := leafSelectorsAll_keyframes (ruleItems false content)
          rw [if_neg (by simp [grouping, form])]
          simp [Rule.ofItem?, form, Rule.leafSelectorsAll, Rule.leafSelectors, frames]
        | rules name conditional =>
          rw [if_pos (grouping.2 ⟨name, conditional, form⟩), ← inside]
          cases conditional <;>
            simp [Rule.ofItem?, form, Rule.groupingOf, Rule.leafSelectorsAll, Rule.leafSelectors]
        | unknown =>
          rw [if_neg (by simp [grouping, form])]
          simp [Rule.ofItem?, form, Rule.leafSelectorsAll, Rule.leafSelectors]

end Item

/-- The leaves of a style sheet are its rules with a header that is not blank, each once and in
order, and what is weighed is weighed under their selectors. A sheet without leaves to list is one
with a number that is too long to read. -/
theorem leaves_ofText (css : Text) :
    (∃ items rules notes leaves, Item.ofText css = .ok items ∧
      Rule.ofText css = .ok (rules, notes) ∧
      (Forest.ofRules rules).leaves (some Forest.root) = .ok leaves ∧ leaves.Nodup ∧
      leaves.map (Forest.ofRules rules).selector? =
        ((Item.ruleHeaders items).filter Item.isSolid).map
        (fun header => some (Component.writeAll header).trim) ∧
      ∀ weighted, (Forest.ofRules rules).weightedRules (some Forest.root) = .ok weighted →
        weighted.map WeightedRule.selectorText = leaves.map (Forest.ofRules rules).selector?) ∨
    (∃ digits, overlongNumeral? (scan css) = some digits ∧
      Rule.ofText css = .error (.overlongNumeral digits)) := by
  rcases Item.ofText_cases css with ⟨items, read⟩ | ⟨digits, overlong, failed⟩
  · have tree : Rule.ofText css = .ok (Rule.ofItems items) := by
      rw [Rule.ofText, read]
      rfl
    have listed := Forest.leaves_ofRules (Rule.ofItems items).1
    refine .inl ⟨items, _, _, _, read, tree, listed, ?_, ?_, ?_⟩
    · exact (Rule.increasing_leafNumbersAll 1 _).imp Nat.ne_of_lt
    · rw [Forest.selector?_leafNumbersAll (Forest.holds_ofRules _), Item.leafSelectorsAll_ofItems,
        List.map_map]
      rfl
    · intro weighted success
      rw [Forest.weightedRules, listed] at success
      exact Forest.selectorText_weighAll success
  · exact .inr ⟨digits, overlong, by rw [Rule.ofText, failed]; rfl⟩

end StyleScore
