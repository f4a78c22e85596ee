import StyleScore.Header.Basic
import StyleScore.Selector.Score
import StyleScore.Tree.Forest

/-!
What is scored of a style sheet: the distinct selectors, the headers around leaves and the weight of
every leaf.
-/
namespace StyleScore

/-- The selector of a rule as written, and the complexity of the completed one. -/
structure WeightedRule where
  selectorText : Option Text
  complexity : Int
  deriving DecidableEq, Repr

structure Score where
  selectors : List Text
  headers : List Header.Record
  rules : List WeightedRule
  deriving DecidableEq, Repr

namespace Forest

/-- The weight of a style rule. -/
def weigh (forest : Forest) (id : NodeId) : Except Error WeightedRule := do
  let resolved ← forest.resolved id
  let complexity ← Selector.complexity (resolved.getD [])
  return ⟨forest.selector? id, complexity⟩

/-- The weights of style rules, up to the first error. -/
def weighAll (forest : Forest) : List NodeId → Except Error (List WeightedRule)
  | [] => .ok []
  | id :: ids => do
    let rule ← forest.weigh id
    let rules ← forest.weighAll ids
    return rule :: rules

def weightedRules (forest : Forest) (tree : Option NodeId) : Except Error (List WeightedRule) := do
  forest.weighAll (← forest.leaves tree)

/-- The records of the headers of grouping rules, up to the first error. -/
def recordAll (forest : Forest) : List NodeId → Except Error (List Header.Record)
  | [] => .ok []
  | id :: ids => do
    let record ← Header.record (← forest.headerText id)
    let records ← forest.recordAll ids
    return record :: records

/-- The records of the at-rules around leaves. -/
def inventory (forest : Forest) (tree : Option NodeId) : Except Error (List Header.Record) := do
  forest.recordAll (← forest.enclosing tree)

/-- All that is scored; the first error of selectors, headers and rules counts. -/
def score (forest : Forest) (tree : Option NodeId) : Except Error Score := do
  let selectors ← forest.uniqueSelectors tree
  let headers ← forest.inventory tree
  let rules ← forest.weightedRules tree
  return ⟨selectors, headers, rules⟩

end Forest
end StyleScore
