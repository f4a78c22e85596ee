import StyleScore.Proofs.Outcome
import StyleScore.Proofs.Report.Markup

/-!
What the page of a report says.

Main statements: `tables_page`, the tables that anyone reads in the page are those of the report,
cell by cell; `marks_page`, the tags and quotes of the page are those of a page with nothing in its
cells; and `ranked_scored`, the table of selectors of whole numbers is in the order of a sort that
keeps equals as they were.
-/
namespace StyleScore

open Markup

/-- The cells of a row of the table of selectors. -/
def RuleRow.cells (row : RuleRow) : List Text := [row.selectorText.printed, row.complexity.printed]

/-- The cells of a row of the table of at-rules. -/
def HeaderRow.cells (row : HeaderRow) : List Text :=
  ['@' :: row.word.printed, row.condition.printed, row.weight.printed]

/-- The rows of the table of figures. -/
def Summary.rows (summary : Summary) : List (List Text) :=
  [["Rules".toList, Text.ofNat summary.totalRules],
    ["Unique selectors".toList, Text.ofNat summary.uniqueSelectors],
    ["At-rules".toList, Text.ofNat summary.headers],
    ["Max selector complexity".toList, summary.maxComplexity.printed],
    ["Mean selector complexity".toList, summary.meanComplexity.printed],
    ["Max at-rule weight".toList, summary.maxHeaderWeight.printed]]

namespace Report

def selectorTable (rules : List RuleRow) : List (List Text) :=
  ["Selector".toList, "Complexity".toList] :: (ranked rules).map RuleRow.cells

/-- The table of at-rules, if there are any. -/
def headerTables (headers : List HeaderRow) : List (List (List Text)) :=
  if headers.isEmpty then []
  else [["Type".toList, "Condition".toList, "Weight".toList] :: headers.map HeaderRow.cells]

/-- The tables of a report. -/
def tables (report : Report) : List (List (List Text)) :=
  report.summary.rows :: selectorTable report.rules :: headerTables report.headers

theorem scans_cell (before : Text) (v : Value) :
    Scans (.within before) (cell v) [] (.within (before ++ cell v)) :=
  Scans.markup (some before) v.printed

theorem resolve_cell (v : Value) : resolve (cell v) = v.printed := resolve_markup v.printed

theorem scans_sourceSuffix (report : Report) : Scans .outside report.sourceSuffix [] .outside := by
  unfold sourceSuffix
  split
  case isTrue =>
    have colon : Scans .outside ": ".toList [] .outside := by decide
    exact colon.append (Scans.markup none _)
  case isFalse => rfl

/-- A row of the table of figures; its name is written as it is. -/
theorem scans_figure {name : String} (value : Value) (unmarked : '<' ∉ name.toList)
    (verbatim : resolve name.toList = name.toList) :
    Scans .outside (figure name value) (rowEvents [name.toList, value.printed]) .outside := by
  have start : Scans .outside "    <tr><th>".toList [.row] (.within []) := by decide
  have between : Scans (.within name.toList) "</th><td class=\"num\">".toList [.cell name.toList]
      (.within []) := by
    have closed : Scans (.within name.toList) "</th><td class=\"num\">".toList
        [.cell (resolve name.toList)] (.within []) := rfl
    rwa [verbatim] at closed
  have finish : Scans (.within (cell value)) "</td></tr>\n".toList [.cell value.printed]
      .outside := by
    rw [← resolve_cell]
    rfl
  exact (((start.append (Scans.plain (some []) unmarked)).append between).append
    (scans_cell [] value)).append finish

theorem scans_ruleLine (row : RuleRow) :
    Scans .outside (ruleLine row) (rowEvents row.cells) .outside := by
  have start : Scans .outside "\n    <tr><td><code>".toList [.row] (.within []) := by decide
  have between : Scans (.within (cell row.selectorText)) "</code></td><td class=\"num\">".toList
      [.cell row.selectorText.printed] (.within []) := by
    rw [← resolve_cell]
    rfl
  have finish : Scans (.within (cell row.complexity)) "</td></tr>\n    ".toList
      [.cell row.complexity.printed] .outside := by
    rw [← resolve_cell]
    rfl
  exact (((start.append (scans_cell [] _)).append between).append (scans_cell [] _)).append finish

theorem scans_headerLine (row : HeaderRow) :
    Scans .outside (headerLine row) (rowEvents row.cells) .outside := by
  have start : Scans .outside "\n    <tr><td>@".toList [.row] (.within ['@']) := by decide
  have afterWord : Scans (.within ('@' :: cell row.word)) "</td><td><code>".toList
      [.cell ('@' :: row.word.printed)] (.within []) := by
    rw [← resolve_cell, ← resolve_cons (by decide)]
    rfl
  have afterCondition : Scans (.within (cell row.condition)) "</code></td><td class=\"num\">".toList
      [.cell row.condition.printed] (.within []) := by
    rw [← resolve_cell]
    rfl
  have finish : Scans (.within (cell row.weight)) "</td></tr>\n    ".toList
      [.cell row.weight.printed] .outside := by
    rw [← resolve_cell]
    rfl
  exact (((((start.append (scans_cell ['@'] _)).append afterWord).append (scans_cell [] _)).append
    afterCondition).append (scans_cell [] _)).append finish

theorem scans_figures (summary : Summary) :
    Scans .outside (figures summary) (summary.rows.flatMap rowEvents) .outside := by
  have row : ∀ (name : String) (value : Value), '<' ∉ name.toList →
      resolve name.toList = name.toList →
      Scans .outside (figure name value) (rowEvents [name.toList, value.printed]) .outside :=
    fun _ => scans_figure
  exact (((((row "Rules" _ (by decide) (by decide)).append
    (row "Unique selectors" _ (by decide) (by decide))).append
    (row "At-rules" _ (by decide) (by decide))).append
    (row "Max selector complexity" _ (by decide) (by decide))).append
    (row "Mean selector complexity" _ (by decide) (by decide))).append
    (row "Max at-rule weight" _ (by decide) (by decide))

theorem scans_headerTable (headers : List HeaderRow) :
    Scans .outside (headerTable headers) ((headerTables headers).flatMap tableEvents) .outside := by
  unfold headerTable headerTables
  split
  case isTrue => rfl
  case isFalse =>
    have start : Scans .outside beforeHeaders
        (.table :: rowEvents ["Type".toList, "Condition".toList, "Weight".toList]) .outside := by
      decide +kernel
    have finish : Scans .outside afterHeaders [] .outside := by decide +kernel
    have whole := (start.append (Scans.rows scans_headerLine headers)).append finish
    simpa only [tableEvents, List.flatMap_cons, List.flatMap_nil, List.append_nil,
      List.cons_append] using whole

/-- The page holds the tables of the report and no other. -/
theorem tables_page (report : Report) : Markup.tables report.page = report.tables := by
  have before : Scans .outside opening [] .outside := by decide +kernel
  have title : Scans .outside afterTitle [] .outside := by decide +kernel
  have heading : Scans .outside afterHeading [.table] .outside := by decide +kernel
  have rules : Scans .outside beforeRules
      (.table :: rowEvents ["Selector".toList, "Complexity".toList]) .outside := by decide +kernel
  have gap : Scans .outside afterRules [] .outside := by decide +kernel
  have finish : Scans .outside closing [] .outside := by decide +kernel
  have suffix := scans_sourceSuffix report
  have whole := (((((((((before.append suffix).append title).append suffix).append heading).append
    (scans_figures report.summary)).append rules).append
    (Scans.rows scans_ruleLine (ranked report.rules))).append gap).append
    (scans_headerTable report.headers)).append finish
  apply tables_eq
  simpa only [page, tables, tableEvents, selectorTable, List.flatMap_cons, List.append_nil,
    List.nil_append, List.append_assoc, List.cons_append, List.singleton_append] using whole

/-- A report with so many rows and nothing in its cells. -/
def blank (rules headers : Nat) : Report where
  source := .text []
  summary := ⟨0, 0, 0, .text [], .text [], .text []⟩
  selectors := .list []
  headers := List.replicate headers ⟨.text [], .text [], .text []⟩
  rules := List.replicate rules ⟨.text [], .text []⟩

@[simp] theorem marks_cell (v : Value) : marks (cell v) = [] := marks_markup v.printed

theorem marks_sourceSuffix (report : Report) : marks report.sourceSuffix = [] := by
  unfold sourceSuffix
  split
  case isTrue => rw [marks_append, marks_cell]; rfl
  case isFalse => rfl

theorem marks_figures (summary other : Summary) :
    marks (figures summary) = marks (figures other) := by
  unfold figures figure
  simp only [marks_append, marks_cell]

theorem marks_ruleLine (row other : RuleRow) : marks (ruleLine row) = marks (ruleLine other) := by
  unfold ruleLine
  simp only [marks_append, marks_cell]

theorem marks_headerLine (row other : HeaderRow) :
    marks (headerLine row) = marks (headerLine other) := by
  unfold headerLine
  simp only [marks_append, marks_cell]

/-- Lines that all have the same marks show no more than how many they are. -/
theorem marks_flatMap {α : Type} {write : α → Text}
    (alike : ∀ a b, marks (write a) = marks (write b)) :
    ∀ {parts others : List α}, parts.length = others.length →
      marks (parts.flatMap write) = marks (others.flatMap write)
  | [], [], _ => rfl
  | a :: parts, b :: others, same => by
    rw [List.flatMap_cons, List.flatMap_cons, marks_append, marks_append, alike a b,
      marks_flatMap alike (Nat.succ.inj same)]

theorem marks_headerTable {headers others : List HeaderRow}
    (same : headers.length = others.length) :
    marks (headerTable headers) = marks (headerTable others) := by
  have none : headers.isEmpty = others.isEmpty := by
    rw [Bool.eq_iff_iff, List.isEmpty_iff_length_eq_zero, List.isEmpty_iff_length_eq_zero, same]
  unfold headerTable
  rw [none]
  split
  case isTrue => rfl
  case isFalse => simp only [marks_append, marks_flatMap marks_headerLine same]

theorem length_ranked (rules : List RuleRow) : (ranked rules).length = rules.length :=
  List.length_mergeSort rules

/-- No text and no number of a report shows in the tags and quotes of its page. -/
theorem marks_page (report : Report) :
    marks report.page = marks (blank report.rules.length report.headers.length).page := by
  have rules : (ranked report.rules).length =
      (ranked (blank report.rules.length report.headers.length).rules).length := by
    simp [length_ranked, blank]
  have headers : report.headers.length =
      (blank report.rules.length report.headers.length).headers.length := by
    simp [blank]
  simp only [page, marks_append, marks_sourceSuffix, marks_flatMap marks_ruleLine rules,
    marks_headerTable headers]
  rw [marks_figures]

end Report

/-- A row for a selector text with a whole number. -/
def RuleRow.scored (rule : Text × Int) : RuleRow := ⟨.text rule.1, .int rule.2⟩

/-- Sorting leaves members in their order among which there is nothing to choose. -/
theorem filter_mergeSort {α : Type} {le : α → α → Bool} {p : α → Bool}
    (trans : ∀ a b c, le a b → le b c → le a c) (total : ∀ a b, le a b || le b a)
    (alike : ∀ a b, p a → p b → le a b) (members : List α) :
    (members.mergeSort le).filter p = members.filter p := by
  have ordered : (members.filter p).Pairwise (fun a b => le a b) :=
    List.pairwise_of_forall_mem_list fun a memberA b memberB =>
      alike a b (List.mem_filter.1 memberA).2 (List.mem_filter.1 memberB).2
  have kept := (List.sublist_mergeSort trans total ordered List.filter_sublist).filter p
  have counted := ((List.mergeSort_perm members le).filter p).length_eq
  simp only [List.filter_filter, Bool.and_self] at kept
  exact (kept.eq_of_length counted.symm).symm

namespace Report

/-- The order of the table of selectors, for whole numbers. -/
def byComplexity (a b : Text × Int) : Bool := b.2 ≤ a.2

theorem before_scored (a b : Text × Int) :
    before (RuleRow.scored a) (RuleRow.scored b) = byComplexity a b := by
  have turned : (!decide (a.2 < b.2)) = decide (b.2 ≤ a.2) := by simp [← decide_not]
  exact turned

theorem ranked_scored (rules : List (Text × Int)) :
    ranked (rules.map RuleRow.scored) = (rules.mergeSort byComplexity).map RuleRow.scored :=
  (List.map_mergeSort fun a _ b _ => (before_scored a b).symm).symm

theorem byComplexity_trans (a b c : Text × Int) (first : byComplexity a b)
    (second : byComplexity b c) :
    byComplexity a c := by
  simp only [byComplexity, decide_eq_true_eq] at *
  omega

theorem byComplexity_total (a b : Text × Int) : byComplexity a b || byComplexity b a := by
  simp only [byComplexity, Bool.or_eq_true, decide_eq_true_eq]
  omega

theorem rules_of_collect {source selectors : Value} {headers : List HeaderRow}
    {rules : List RuleRow} {report : Report}
    (collected : collect source selectors headers rules = .ok report) :
    report.headers = headers ∧ report.rules = rules := by
  obtain ⟨_, _, collected⟩ := bind_eq_ok.1 collected
  obtain ⟨_, _, collected⟩ := bind_eq_ok.1 collected
  obtain ⟨_, _, collected⟩ := bind_eq_ok.1 collected
  obtain ⟨_, _, collected⟩ := bind_eq_ok.1 collected
  obtain rfl := Except.ok.inj collected
  exact ⟨rfl, rfl⟩

/-- What is rendered is the page, unless a value of the report has a number with too many digits. -/
theorem render_cases (report : Report) :
    report.render = .ok report.page ∨
      (report.render = .error .overlongInteger ∧
        ∃ value ∈ report.values, value.isPrintable = false) := by
  unfold render
  split
  case isTrue => exact .inl rfl
  case isFalse overlong =>
    rw [Bool.not_eq_true, List.all_eq_false] at overlong
    obtain ⟨value, member, unprintable⟩ := overlong
    exact .inr ⟨rfl, value, member, (Bool.not_eq_true _).mp unprintable⟩

/-- The page of a report on whole numbers shows them as they are, whatever the texts; it is what is
rendered unless a number has too many digits. Its tags and quotes depend on the numbers of rows
alone. Its second table, read back, has the rules as rows, the more complex first and of equals the
earlier. -/
theorem page_faithful {source selectors : Value} {headers : List HeaderRow}
    {rules : List (Text × Int)} {report : Report}
    (collected : collect source selectors headers (rules.map RuleRow.scored) = .ok report) :
    (report.render = .ok report.page ∨ (report.render = .error .overlongInteger ∧
        ∃ value ∈ report.values, value.isPrintable = false)) ∧
      marks report.page = marks (blank rules.length headers.length).page ∧
      ∃ rows : List (Text × Int),
        (Markup.tables report.page)[1]? =
          some (["Selector".toList, "Complexity".toList] ::
            rows.map fun row => [row.1, Text.ofInt row.2]) ∧
        rows.Perm rules ∧ rows.Pairwise (fun a b => b.2 ≤ a.2) ∧
        ∀ n : Int, rows.filter (·.2 = n) = rules.filter (·.2 = n) := by
  obtain ⟨sameHeaders, sameRules⟩ := rules_of_collect collected
  refine ⟨render_cases report, ?_, rules.mergeSort byComplexity, ?_, List.mergeSort_perm _ _, ?_,
    fun n => ?_⟩
  · rw [marks_page, sameHeaders, sameRules, List.length_map]
  · rw [tables_page, tables, selectorTable, sameRules, ranked_scored, List.map_map]
    rfl
  · simpa [byComplexity] using
      List.pairwise_mergeSort byComplexity_trans byComplexity_total rules
  · apply filter_mergeSort byComplexity_trans byComplexity_total
    intro a b equalA equalB
    simp only [byComplexity, decide_eq_true_eq] at *
    omega

/-- Selector texts that look like pieces of a page, two of them with the same number. -/
def hostileRules : List (Text × Int) :=
  [("</td><td>9".toList, 11), ("a[b=\"<i>\"]".toList, 20), ("&lt;".toList, 11)]

def hostileHeaders : List HeaderRow := [⟨.text "media".toList, .text "'<b>'".toList, .int 3⟩]

theorem exists_collect_hostile :
    ∃ report, collect (.text "<script>".toList) (.list []) hostileHeaders
    (hostileRules.map RuleRow.scored) = .ok report := by
  have collects : (collect (.text "<script>".toList) (.list []) hostileHeaders
      (hostileRules.map RuleRow.scored)).toOption.isSome = true := by decide +kernel
  obtain ⟨report, found⟩ := Option.isSome_iff_exists.1 collects
  exact ⟨report, eq_ok_of_toOption found⟩

theorem page_faithful_hostile : ∃ report,
    collect (.text "<script>".toList) (.list []) hostileHeaders (hostileRules.map RuleRow.scored) =
      .ok report ∧
    (report.render = .ok report.page ∨ (report.render = .error .overlongInteger ∧
        ∃ value ∈ report.values, value.isPrintable = false)) ∧
      marks report.page = marks (blank hostileRules.length hostileHeaders.length).page ∧
      ∃ rows : List (Text × Int),
        (Markup.tables report.page)[1]? =
          some (["Selector".toList, "Complexity".toList] ::
            rows.map fun row => [row.1, Text.ofInt row.2]) ∧
        rows.Perm hostileRules ∧ rows.Pairwise (fun a b => b.2 ≤ a.2) ∧
        ∀ n : Int, rows.filter (·.2 = n) = hostileRules.filter (·.2 = n) := by
  obtain ⟨report, collected⟩ := exists_collect_hostile
  exact ⟨report, collected, page_faithful collected⟩

end Report
end StyleScore
