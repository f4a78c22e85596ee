import StyleScore.Selector.List
import StyleScore.Tree.Rule

/-!
Rules with an identity. A forest holds nodes by number; every node lists its children and may name
its parent. Children may be shared, and a parent link need not be matched by a child link, so the
walks below are bounded by the number of nodes, which no walk without a cycle exceeds.
-/
namespace StyleScore

abbrev NodeId := Nat

inductive NodeKind where
  | sheet
  | style (selector : Option Text) (declarations : List (Text × Text))
  | grouping (keyword : Text) (condition name : Option Text)
  | statement (keyword header : Text)
  | keyframe (key : Text) (declarations : List (Text × Text))
  deriving DecidableEq, Repr

namespace NodeKind

/-- The nodes that hold rules. -/
def isContainer : NodeKind → Bool
  | sheet => true
  | style _ _ => true
  | grouping _ _ _ => true
  | statement _ _ => false
  | keyframe _ _ => false

def isStyle : NodeKind → Bool
  | style _ _ => true
  | _ => false

/-- A style rule whose selector is not empty. -/
def isLeaf : NodeKind → Bool
  | style (some selector) _ => selector ≠ []
  | _ => false

/-- A grouping rule with a condition or a name that is not empty. -/
def isNamed : NodeKind → Bool
  | grouping _ condition name => condition.getD [] ≠ [] || name.getD [] ≠ []
  | _ => false

/-- The header of a grouping rule: its keyword with its condition, or else its name. -/
def headerText? : NodeKind → Option Text
  | grouping keyword condition name =>
    let detail := if condition.getD [] ≠ [] then condition.getD [] else name.getD []
    some (Text.trim ('@' :: keyword ++ ' ' :: detail))
  | _ => none

end NodeKind

structure Node where
  kind : NodeKind
  children : List NodeId
  parent : Option NodeId
  deriving DecidableEq, Repr

structure Forest where
  nodes : Array Node
  deriving Repr

namespace Rule

mutual

/-- The number of rules in a rule, itself included. -/
def size : Rule → Nat
  | style _ _ rules => 1 + sizeAll rules
  | grouping _ _ _ rules => 1 + sizeAll rules
  | statement _ _ => 1
  | keyframe _ _ => 1

def sizeAll : List Rule → Nat
  | [] => 0
  | rule :: rules => size rule + sizeAll rules

end

/-- The numbers of rules side by side, when the first one is `first` and each is followed by the
rules in it. -/
def numbers (first : NodeId) : List Rule → List NodeId
  | [] => []
  | rule :: rules => first :: numbers (first + rule.size) rules

mutual

/-- The nodes of a rule with the number `id`: itself, then those of the rules in it. -/
def nodes (id : NodeId) (parent : Option NodeId) : Rule → List Node
  | style selector declarations rules =>
    ⟨.style (some selector) declarations, numbers (id + 1) rules, parent⟩ ::
      nodesAll (id + 1) (some id) rules
  | grouping keyword condition name rules =>
    ⟨.grouping keyword condition name, numbers (id + 1) rules, parent⟩ ::
      nodesAll (id + 1) (some id) rules
  | statement keyword header => [⟨.statement keyword header, [], parent⟩]
  | keyframe key declarations => [⟨.keyframe key declarations, [], parent⟩]

/-- The nodes of rules side by side, from the number `first` on. -/
def nodesAll (first : NodeId) (parent : Option NodeId) : List Rule → List Node
  | [] => []
  | rule :: rules => nodes first parent rule ++ nodesAll (first + rule.size) parent rules

end

end Rule

namespace Forest

/-- The number of the sheet in the forest of a style sheet. -/
def root : NodeId := 0

/-- The forest of a style sheet. The rules at its top have no parent. -/
def ofRules (rules : List Rule) : Forest :=
  ⟨(⟨.sheet, Rule.numbers 1 rules, none⟩ :: Rule.nodesAll 1 none rules).toArray⟩

def size (forest : Forest) : Nat := forest.nodes.size

def node? (forest : Forest) (id : NodeId) : Option Node := forest.nodes[id]?

def kind? (forest : Forest) (id : NodeId) : Option NodeKind := (forest.node? id).map Node.kind

def parent? (forest : Forest) (id : NodeId) : Option NodeId := (forest.node? id).bind Node.parent

/-- The children of a node that holds rules. -/
def children? (forest : Forest) (id : NodeId) : Option (List NodeId) :=
  match forest.node? id with
  | some node => if node.kind.isContainer then some node.children else none
  | none => none

def children (forest : Forest) (id : NodeId) : List NodeId := (forest.children? id).getD []

def isLeaf (forest : Forest) (id : NodeId) : Bool := (forest.kind? id).elim false NodeKind.isLeaf

/-- An element is put at the end unless it is there already. -/
def addNew {α : Type} [DecidableEq α] (items : List α) (item : α) : List α :=
  if item ∈ items then items else items ++ [item]

/-- Each element at its first place. -/
def firsts {α : Type} [DecidableEq α] (items : List α) : List α := items.foldl addNew []

/-- The leaves in and below nodes side by side, at most `depth` levels down: each node before those
in it, and each once. -/
def leavesWithin (forest : Forest) : (depth : Nat) → List NodeId → List NodeId
  | 0, _ => []
  | depth + 1, ids =>
    ids.foldl (fun leaves id =>
      let leaves := if forest.isLeaf id then addNew leaves id else leaves
      (forest.leavesWithin depth (forest.children id)).foldl addNew leaves) []

/-- The leaves below a node, in the order of the style sheet. There has to be a node, and it has to
be one that holds rules. -/
def leaves (forest : Forest) (tree : Option NodeId) : Except Error (List NodeId) :=
  match tree.bind forest.children? with
  | some ids => .ok (forest.leavesWithin (forest.size + 1) ids)
  | none => .error .noRuleTree

def selector? (forest : Forest) (id : NodeId) : Option Text :=
  match forest.kind? id with
  | some (.style selector _) => selector
  | _ => none

/-- The selectors of the leaves, each once. -/
def uniqueSelectors (forest : Forest) (tree : Option NodeId) : Except Error (List Text) :=
  (forest.leaves tree).map fun ids => firsts (ids.filterMap forest.selector?)

/-- The named grouping rules that are the parent of a leaf, each once. -/
def enclosing (forest : Forest) (tree : Option NodeId) : Except Error (List NodeId) :=
  (forest.leaves tree).map fun ids =>
    firsts ((ids.filterMap forest.parent?).filter fun id =>
      (forest.kind? id).elim false NodeKind.isNamed)

/-- The nearest style rule among the parents, at most `steps` of them up. -/
def styleAbove? (forest : Forest) : (steps : Nat) → NodeId → Option NodeId
  | 0, _ => none
  | steps + 1, id =>
    match forest.parent? id with
    | none => none
    | some parent =>
      if (forest.kind? parent).elim false NodeKind.isStyle then some parent
      else forest.styleAbove? steps parent

/-- A selector completed by the one above it; both have to be there. -/
def nestSelector : (above own : Option Text) → Except Error (Option Text)
  | some above, some own => .ok (some (Selector.nest above own))
  | _, _ => .error .wrongType

/-- The selector of a style rule, completed by those of the style rules above it, at most `steps`
of them. -/
def resolvedWithin (forest : Forest) : (steps : Nat) → NodeId → Except Error (Option Text)
  | 0, id => .ok (forest.selector? id)
  | steps + 1, id =>
    match forest.styleAbove? forest.size id with
    | none => .ok (forest.selector? id)
    | some above => do
      nestSelector (← forest.resolvedWithin steps above) (forest.selector? id)

/-- The completed selector of a style rule. -/
def resolved (forest : Forest) (id : NodeId) : Except Error (Option Text) :=
  if (forest.kind? id).elim false NodeKind.isStyle then forest.resolvedWithin forest.size id
  else .error .missingAttribute

/-- The header of a grouping rule. -/
def headerText (forest : Forest) (id : NodeId) : Except Error Text :=
  match (forest.kind? id).bind NodeKind.headerText? with
  | some text => .ok text
  | none => .error .missingAttribute

/-- How a node is shown: what it is and what tells it from others. -/
def describe (forest : Forest) (id : NodeId) : Text :=
  match forest.kind? id with
  | some .sheet =>
    "StyleSheet(".toList ++ Text.ofNat (forest.children id).length ++ " rules)".toList
  | some (.style (some selector) _) => "StyleRule(".toList ++ Text.quoted selector ++ [')']
  | some (.style none _) => "StyleRule(None)".toList
  | some (.grouping keyword condition name) =>
    "GroupingRule(".toList ++
      Text.quoted ((NodeKind.grouping keyword condition name).headerText?.getD []) ++ [')']
  | some (.statement keyword _) => "AtRuleNode(".toList ++ Text.quoted keyword ++ [')']
  | some (.keyframe key _) => "KeyframeRule(".toList ++ Text.quoted key ++ [')']
  | none => "None".toList

end Forest
end StyleScore
