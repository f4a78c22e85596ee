import StyleScore.Proofs.Tree.Leaves

/-!
The texts of the leaves of a forest: their selectors, and these completed by the rules around them.
The declarations of rules play no part in them (`leafTexts_undeclared`).
-/
namespace StyleScore

/-- A kind of node without declarations. -/
def NodeKind.undeclared : NodeKind → NodeKind
  | style selector _ => style selector []
  | keyframe key _ => keyframe key []
  | sheet => sheet
  | grouping keyword condition name => grouping keyword condition name
  | statement keyword header => statement keyword header

def Node.undeclared (node : Node) : Node := { node with kind := node.kind.undeclared }

namespace Forest

/-- The selector and the completed selector of every leaf. -/
def leafTexts (forest : Forest) : Except Error (List (Option Text × Except Error (Option Text))) :=
  (forest.leaves (some root)).map (List.map fun id => (forest.selector? id, forest.resolved id))

/-- A forest without declarations. -/
def undeclared (forest : Forest) : Forest := ⟨forest.nodes.map Node.undeclared⟩

variable (forest : Forest)

@[simp]
theorem size_undeclared : forest.undeclared.size = forest.size := Array.size_map

theorem node?_undeclared (id : NodeId) :
    forest.undeclared.node? id = (forest.node? id).map Node.undeclared :=
  Array.getElem?_map

theorem kind?_undeclared (id : NodeId) :
    forest.undeclared.kind? id = (forest.kind? id).map NodeKind.undeclared := by
  rw [kind?, node?_undeclared, kind?, Option.map_map, Option.map_map]
  rfl

@[simp]
theorem parent?_undeclared (id : NodeId) : forest.undeclared.parent? id = forest.parent? id := by
  rw [parent?, node?_undeclared, parent?]
  cases forest.node? id <;> rfl

@[simp]
theorem isStyle_undeclared (id : NodeId) :
    (forest.undeclared.kind? id).elim false NodeKind.isStyle =
    (forest.kind? id).elim false NodeKind.isStyle := by
  rw [kind?_undeclared]
  rcases forest.kind? id with _ | ⟨_ | _ | _ | _ | _⟩ <;> rfl

@[simp]
theorem isLeaf_undeclared (id : NodeId) : forest.undeclared.isLeaf id = forest.isLeaf id := by
  rw [isLeaf, kind?_undeclared, isLeaf]
  rcases forest.kind? id with _ | ⟨_ | ⟨_ | _⟩ | _ | _ | _⟩ <;> rfl

@[simp]
theorem selector?_undeclared (id : NodeId) :
    forest.undeclared.selector? id = forest.selector? id := by
  rw [selector?, kind?_undeclared, selector?]
  rcases forest.kind? id with _ | ⟨_ | _ | _ | _ | _⟩ <;> rfl

@[simp]
theorem children?_undeclared : forest.undeclared.children? = forest.children? := by
  funext id
  rw [children?, node?_undeclared, children?]
  rcases forest.node? id with _ | ⟨_ | _ | _ | _ | _, children, parent⟩ <;> rfl

theorem leavesWithin_undeclared (depth : Nat) (ids : List NodeId) :
    forest.undeclared.leavesWithin depth ids = forest.leavesWithin depth ids := by
  induction depth generalizing ids with
  | zero => rfl
  | succ depth ih => simp only [leavesWithin, children, isLeaf_undeclared, children?_undeclared, ih]

theorem styleAbove?_undeclared (steps : Nat) (id : NodeId) :
    forest.undeclared.styleAbove? steps id = forest.styleAbove? steps id := by
  induction steps generalizing id with
  | zero => rfl
  | succ steps ih => simp only [styleAbove?, parent?_undeclared, isStyle_undeclared, ih]

theorem resolvedWithin_undeclared (steps : Nat) (id : NodeId) :
    forest.undeclared.resolvedWithin steps id = forest.resolvedWithin steps id := by
  induction steps generalizing id with
  | zero => simp only [resolvedWithin, selector?_undeclared]
  | succ steps ih =>
    simp only [resolvedWithin, size_undeclared, styleAbove?_undeclared, selector?_undeclared, ih]

theorem resolved_undeclared (id : NodeId) : forest.undeclared.resolved id = forest.resolved id := by
  rw [resolved, isStyle_undeclared, size_undeclared, resolvedWithin_undeclared, resolved]

/-- Declarations play no part in the texts of the leaves. -/
theorem leafTexts_undeclared : forest.undeclared.leafTexts = forest.leafTexts := by
  simp only [leafTexts, leaves, children?_undeclared, size_undeclared, leavesWithin_undeclared,
    selector?_undeclared, resolved_undeclared]

/-- The declarations of a rule that stands alone at the top play no part in the texts of the
leaves. -/
theorem leafTexts_style (selector : Text) (declarations others : List (Text × Text))
    (rules : List Rule) :
    (ofRules [.style selector declarations rules]).leafTexts =
      (ofRules [.style selector others rules]).leafTexts := by
  rw [← leafTexts_undeclared, ← leafTexts_undeclared (ofRules [.style selector others rules])]
  simp [undeclared, ofRules, Rule.nodesAll, Rule.nodes, Rule.numbers, Node.undeclared,
    NodeKind.undeclared]

/-- The selectors among the texts of the leaves. -/
theorem fst_leafTexts (rules : List Rule) : (ofRules rules).leafTexts.map (List.map Prod.fst) =
    .ok ((Rule.leafSelectorsAll rules).map some) := by
  rw [leafTexts, leaves_ofRules, ← selector?_leafNumbersAll (holds_ofRules rules)]
  simp [Except.map, Function.comp_def]

end Forest
end StyleScore
