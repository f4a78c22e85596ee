import StyleScore.Report.Data
import StyleScore.Value.Show

/-!
A report as a page: summary, selectors with the most complex first, and at-rules if there are any.
A report with a whole number of too many digits has no page.
-/
namespace StyleScore

namespace Text

/-- A character as it is written in a page. -/
def escapeMarkup (c : Char) : Text :=
  if c = '&' then "&amp;".toList
  else if c = '<' then "&lt;".toList
  else if c = '>' then "&gt;".toList
  else if c = '"' then "&#34;".toList
  else if c = '\'' then "&#39;".toList
  else [c]

def markup (text : Text) : Text := text.flatMap escapeMarkup

end Text

def Summary.values (summary : Summary) : List Value :=
  [.int summary.totalRules, .int summary.uniqueSelectors, .int summary.headers,
    summary.maxComplexity, summary.meanComplexity, summary.maxHeaderWeight]

def RuleRow.values (row : RuleRow) : List Value := [row.selectorText, row.complexity]

def HeaderRow.values (row : HeaderRow) : List Value := [row.word, row.condition, row.weight]

namespace Report

/-- A value as it is printed in a page. -/
def cell (v : Value) : Text := Text.markup v.printed

/-- The row with the greater complexity comes first; of equals, the earlier one. -/
def before (a b : RuleRow) : Bool :=
  match a.complexity.number?, b.complexity.number? with
  | some m, some n => !m.lt n
  | _, _ => true

def ranked (rules : List RuleRow) : List RuleRow := rules.mergeSort before

/-- Lines with line ends between them. -/
def lines (texts : List String) : Text := Text.joinWith ['\n'] (texts.map String.toList)

def sourceSuffix (report : Report) : Text :=
  if report.source.isTruthy then ": ".toList ++ cell report.source else []

def opening : Text := lines [
  "<!DOCTYPE html>",
  "<html lang=\"en\">",
  "<head>",
  "  <meta charset=\"utf-8\">",
  "  <title>CSS complexity"]

def afterTitle : Text := lines [
  "</title>",
  "  <style>",
  "    body \x7b font-family: sans-serif; margin: 2rem; \x7d",
  "    table \x7b border-collapse: collapse; margin-bottom: 2rem; \x7d",
  "    th, td \x7b border: 1px solid #ccc; padding: .25rem .75rem; text-align: left; \x7d",
  "    td.num \x7b text-align: right; \x7d",
  "  </style>",
  "</head>",
  "<body>",
  "  <h1>CSS complexity"]

def afterHeading : Text := lines [
  "</h1>",
  "",
  "  <h2>Summary</h2>",
  "  <table>",
  ""]

/-- A line of the summary. -/
def figure (name : String) (value : Value) : Text :=
  "    <tr><th>".toList ++ name.toList ++ "</th><td class=\"num\">".toList ++ cell value ++
    "</td></tr>\n".toList

def figures (summary : Summary) : Text :=
  figure "Rules" (.int summary.totalRules) ++
    figure "Unique selectors" (.int summary.uniqueSelectors) ++
    figure "At-rules" (.int summary.headers) ++
    figure "Max selector complexity" summary.maxComplexity ++
    figure "Mean selector complexity" summary.meanComplexity ++
    figure "Max at-rule weight" summary.maxHeaderWeight

def beforeRules : Text := lines [
  "  </table>",
  "",
  "  <h2>Selectors</h2>",
  "  <table>",
  "    <tr><th>Selector</th><th>Complexity</th></tr>",
  "    "]

def ruleLine (row : RuleRow) : Text :=
  "\n    <tr><td><code>".toList ++ cell row.selectorText ++
    "</code></td><td class=\"num\">".toList ++
    cell row.complexity ++ "</td></tr>\n    ".toList

def afterRules : Text := lines [
  "",
  "  </table>",
  "",
  "  "]

def beforeHeaders : Text := lines [
  "",
  "  <h2>At-rules</h2>",
  "  <table>",
  "    <tr><th>Type</th><th>Condition</th><th>Weight</th></tr>",
  "    "]

def headerLine (row : HeaderRow) : Text :=
  "\n    <tr><td>@".toList ++ cell row.word ++ "</td><td><code>".toList ++ cell row.condition ++
    "</code></td><td class=\"num\">".toList ++ cell row.weight ++ "</td></tr>\n    ".toList

def afterHeaders : Text := lines [
  "",
  "  </table>",
  "  "]

/-- The table of at-rules; without any there is none. -/
def headerTable (headers : List HeaderRow) : Text :=
  if headers.isEmpty then [] else beforeHeaders ++ headers.flatMap headerLine ++ afterHeaders

def closing : Text := lines [
  "",
  "</body>",
  "</html>"]

/-- The whole page. -/
def page (report : Report) : Text :=
  opening ++ report.sourceSuffix ++ afterTitle ++ report.sourceSuffix ++ afterHeading ++
    figures report.summary ++ beforeRules ++ (ranked report.rules).flatMap ruleLine ++ afterRules ++
    headerTable report.headers ++ closing

/-- The values that stand in a page. -/
def values (report : Report) : List Value :=
  report.source :: report.summary.values ++ report.rules.flatMap RuleRow.values ++
    report.headers.flatMap HeaderRow.values

/-- The page of a report, unless it has a number that cannot be printed. -/
def render (report : Report) : Except Error Text :=
  if report.values.all Value.isPrintable then .ok report.page else .error .overlongInteger

/-- The page of a report, which has to have been collected. -/
def pageOf (report : Option Report) : Except Error Text :=
  match report with
  | some report => report.render
  | none => .error .noSummary

end Report
end StyleScore
