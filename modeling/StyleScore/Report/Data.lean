import StyleScore.Report.Score
import StyleScore.Value.Number

/-!
The data of a report: the rows of a score with summary figures over them.
-/
namespace StyleScore

/-- A line of the table of selectors. -/
structure RuleRow where
  selectorText : Value
  complexity : Value
  deriving Repr

/-- A line of the table of at-rules. -/
structure HeaderRow where
  word : Value
  condition : Value
  weight : Value
  deriving Repr

structure Summary where
  totalRules : Nat
  uniqueSelectors : Nat
  headers : Nat
  maxComplexity : Value
  meanComplexity : Value
  maxHeaderWeight : Value
  deriving Repr

structure Report where
  source : Value
  summary : Summary
  selectors : Value
  headers : List HeaderRow
  rules : List RuleRow
  deriving Repr

/-- A row of two cells; the number may not be missing. -/
def RuleRow.ofCells : List Value → Except Error RuleRow
  | selectorText :: complexity :: _ => .ok ⟨selectorText, complexity⟩
  | _ => .error .missingKey

/-- A row of three cells; the number may not be missing. -/
def HeaderRow.ofCells : List Value → Except Error HeaderRow
  | word :: condition :: weight :: _ => .ok ⟨word, condition, weight⟩
  | _ => .error .missingKey

def WeightedRule.row (rule : WeightedRule) : RuleRow :=
  ⟨.ofText? rule.selectorText, .int rule.complexity⟩

def Header.Record.row (record : Header.Record) : HeaderRow :=
  ⟨.ofText? record.word?, .ofText? record.condition?, .int record.weight⟩

def RuleRow.toValue (row : RuleRow) : Value :=
  .object [("selectorText".toList, row.selectorText), ("selectorComplexity".toList, row.complexity)]

def HeaderRow.toValue (row : HeaderRow) : Value :=
  .object [("atRuleType".toList, row.word), ("conditionText".toList, row.condition),
    ("atRuleWeight".toList, row.weight)]

def Summary.toValue (summary : Summary) : Value :=
  .object [("totalRules".toList, .int summary.totalRules),
    ("uniqueSelectors".toList, .int summary.uniqueSelectors),
    ("atRules".toList, .int summary.headers),
    ("maxSelectorComplexity".toList, summary.maxComplexity),
    ("meanSelectorComplexity".toList, summary.meanComplexity),
    ("maxAtRuleWeight".toList, summary.maxHeaderWeight)]

namespace Report

/-- A report on rows. -/
def collect (source selectors : Value) (headers : List HeaderRow) (rules : List RuleRow) :
    Except Error Report := do
  let uniqueSelectors ← selectors.length
  let maxComplexity ← Value.greatest (rules.map RuleRow.complexity)
  let meanComplexity ← Value.mean (rules.map RuleRow.complexity)
  let maxHeaderWeight ← Value.greatest (headers.map HeaderRow.weight)
  return {
    source
    summary :=
    ⟨rules.length, uniqueSelectors, headers.length, maxComplexity, meanComplexity, maxHeaderWeight⟩
    selectors
    headers
    rules }

/-- A report on rows given by their cells. -/
def ofCells (source selectors : Value) (headers rules : List (List Value)) : Except Error Report :=
  do
  let rules ← rules.mapM RuleRow.ofCells
  let headers ← headers.mapM HeaderRow.ofCells
  collect source selectors headers rules

/-- The report on a score. -/
def ofScore (source : Text) (score : Score) : Except Error Report :=
  collect (.text source) (.list (score.selectors.map .text)) (score.headers.map Header.Record.row)
    (score.rules.map WeightedRule.row)

def toValue (report : Report) : Value :=
  .object [("source".toList, report.source), ("summary".toList, report.summary.toValue),
    ("selectors".toList, report.selectors),
    ("atRules".toList, .list (report.headers.map HeaderRow.toValue)),
    ("weightedRules".toList, .list (report.rules.map RuleRow.toValue))]

/-- The data of a report; nothing was collected for one that is not there. -/
def dataOf (report : Option Report) : Value := report.elim (.object []) toValue

end Report
end StyleScore
