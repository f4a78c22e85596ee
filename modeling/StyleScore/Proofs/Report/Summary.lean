import StyleScore.Proofs.Report.Figures
import StyleScore.Proofs.Tree.Leaves

/-!
The sections of a score and the summary over them agree, whatever nodes are shared and wherever
parent links lead. The selectors are those of the weighted rules, each at its first place; every
header belongs to a leaf, so there are no more headers than weighted rules; the greatest complexity
and the greatest weight are bounds that are reached.
-/
namespace StyleScore

namespace Forest

section Leaves

variable {forest : Forest} {depth : Nat} {ids : List NodeId} {id : NodeId}

theorem isLeaf_of_mem_leavesWithin (member : id ∈ forest.leavesWithin depth ids) :
    forest.isLeaf id = true := by
  induction depth generalizing ids id with
  | zero => cases member
  | succ depth down =>
    -- Along the nodes side by side all that was found before are leaves.
    have walk : ∀ found : List NodeId, (∀ other ∈ found, forest.isLeaf other = true) →
        ∀ other ∈ ids.foldl (fun leaves id =>
            (forest.leavesWithin depth (forest.children id)).foldl addNew
              (if forest.isLeaf id then addNew leaves id else leaves)) found,
          forest.isLeaf other = true := by
      clear member
      induction ids with
      | nil => exact fun found leaves => leaves
      | cons first ids beside =>
        intro found leaves
        refine beside _ ?_
        intro other met
        rcases mem_foldl_addNew.1 met with before | below
        · split at before
          · next own =>
            rcases mem_addNew.1 before with old | rfl
            · exact leaves other old
            · exact own
          · exact leaves other before
        · exact down below
    exact walk [] (by simp) id member

theorem exists_selector?_of_isLeaf (leaf : forest.isLeaf id = true) :
    ∃ text, forest.selector? id = some text := by
  unfold isLeaf at leaf
  unfold selector?
  cases found : forest.kind? id with
  | none => simp [found] at leaf
  | some kind =>
    rw [found] at leaf
    cases kind with
    | style selector declarations =>
      cases selector with
      | none => simp [NodeKind.isLeaf] at leaf
      | some text => exact ⟨text, rfl⟩
    | _ => simp [NodeKind.isLeaf] at leaf

/-- Every leaf has a selector. -/
theorem map_selector?_leaves {tree : Option NodeId} (listed : forest.leaves tree = .ok ids) :
    ids.map forest.selector? = (ids.filterMap forest.selector?).map some := by
  have leaves : ∀ id ∈ ids, forest.isLeaf id = true := by
    intro id member
    unfold Forest.leaves at listed
    split at listed
    · rw [← Except.ok.inj listed] at member
      exact isLeaf_of_mem_leavesWithin member
    · cases listed
  clear listed
  induction ids with
  | nil => rfl
  | cons id ids ih =>
    obtain ⟨own, others⟩ := List.forall_mem_cons.1 leaves
    obtain ⟨text, selector⟩ := exists_selector?_of_isLeaf own
    rw [List.map_cons, ih others, List.filterMap_cons_some selector, List.map_cons, selector]

theorem length_recordAll {records : List Header.Record}
    (success : forest.recordAll ids = .ok records) :
    records.length = ids.length := by
  induction ids generalizing records with
  | nil =>
    cases success
    rfl
  | cons id ids ih =>
    obtain ⟨text, -, success⟩ := bind_eq_ok.1 success
    obtain ⟨record, -, success⟩ := bind_eq_ok.1 success
    obtain ⟨rest, later, success⟩ := bind_eq_ok.1 success
    rw [← Except.ok.inj success, List.length_cons, List.length_cons, ih later]

end Leaves

section Score

variable {forest : Forest} {tree : Option NodeId} {score : Score}

/-- A header belongs to the parent of a leaf, and no parent counts twice. -/
theorem length_inventory_le {ids : List NodeId} {records : List Header.Record}
    (listed : forest.leaves tree = .ok ids) (success : forest.inventory tree = .ok records) :
    records.length ≤ ids.length := by
  obtain ⟨around, enclosed, success⟩ := bind_eq_ok.1 success
  rw [enclosing, listed] at enclosed
  rw [length_recordAll success, ← Except.ok.inj enclosed]
  calc (firsts ((ids.filterMap forest.parent?).filter _)).length
      ≤ ((ids.filterMap forest.parent?).filter _).length := length_firsts_le _
    _ ≤ (ids.filterMap forest.parent?).length := List.length_filter_le ..
    _ ≤ ids.length := List.length_filterMap_le ..

/-- The three sections of a score come from one list of leaves. -/
theorem score_sections (scored : forest.score tree = .ok score) :
    ∃ texts, score.rules.map WeightedRule.selectorText = texts.map some ∧
      score.selectors = firsts texts ∧
      score.headers.length ≤ score.rules.length := by
  obtain ⟨selectors, unique, scored⟩ := bind_eq_ok.1 scored
  obtain ⟨headers, recorded, scored⟩ := bind_eq_ok.1 scored
  obtain ⟨rules, weighed, scored⟩ := bind_eq_ok.1 scored
  rw [← Except.ok.inj scored]
  obtain ⟨ids, listed, weighed⟩ := bind_eq_ok.1 weighed
  rw [uniqueSelectors, listed] at unique
  have texts := selectorText_weighAll weighed
  have count : rules.length = ids.length := by simpa using congrArg List.length texts
  refine ⟨ids.filterMap forest.selector?, texts.trans (map_selector?_leaves listed),
    (Except.ok.inj unique).symm, ?_⟩
  exact count ▸ length_inventory_le listed recorded

end Score
end Forest

/-- The summary counts the sections of a score, and its greatest figures are those of the score. -/
structure Summary.Describes (summary : Summary) (score : Score) : Prop where
  rules : summary.totalRules = score.rules.length
  selectors : summary.uniqueSelectors = score.selectors.length
  headers : summary.headers = score.headers.length
  maxComplexity : summary.maxComplexity.IsGreatest (score.rules.map WeightedRule.complexity)
  maxHeaderWeight : summary.maxHeaderWeight.IsGreatest
    (score.headers.map fun record => (record.weight : Int))

theorem Report.describes_of_ofScore {source : Text} {score : Score} {report : Report}
    (made : ofScore source score = .ok report) : report.summary.Describes score := by
  obtain ⟨most, mean, heaviest, greatest, -, greatestWeight, rfl⟩ := exists_figures made
  obtain ⟨value, found, isGreatest⟩ := Value.exists_greatest_int score.complexities
  obtain ⟨weight, foundToo, isGreatestToo⟩ := Value.exists_greatest_int score.weights
  obtain rfl := Except.ok.inj (found.symm.trans greatest)
  obtain rfl := Except.ok.inj (foundToo.symm.trans greatestWeight)
  exact ⟨rfl, rfl, rfl, isGreatest, isGreatestToo⟩

/-- On every graph of nodes that can be scored, the selectors are the texts of the weighted rules,
each at its first place, and there are at most as many headers as weighted rules. The report on the
score fails only where the mean complexity is too large for a number; otherwise its summary has no
more selectors and no more headers than rules, no selector exactly where there is no rule, and the
greatest complexity and weight that there are. -/
theorem Forest.score_consistent {forest : Forest} {tree : Option NodeId} {score : Score}
    (scored : forest.score tree = .ok score) :
    score.selectors.map some = (score.rules.map WeightedRule.selectorText).eraseDups ∧
    score.headers.length ≤ score.rules.length ∧
    ∀ source, (Report.ofScore source score = .error .overflow ∧ Report.Overflows score) ∨
      ∃ report, Report.ofScore source score = .ok report ∧ report.summary.Describes score ∧
        report.summary.uniqueSelectors ≤ report.summary.totalRules ∧
        report.summary.headers ≤ report.summary.totalRules ∧
        (report.summary.uniqueSelectors = 0 ↔ report.summary.totalRules = 0) := by
  obtain ⟨texts, written, unique, fewer⟩ := score_sections scored
  have count : score.rules.length = texts.length := by simpa using congrArg List.length written
  refine ⟨?_, fewer, ?_⟩
  · rw [written, unique, ← firsts_eq_eraseDups]
    exact map_foldl_addNew (fun _ _ => Option.some.inj) [] texts
  · intro source
    rcases Report.ofScore_cases source score with ⟨report, made, -⟩ | overflow
    · have describes := Report.describes_of_ofScore made
      refine .inr ⟨report, made, describes, ?_, ?_, ?_⟩
      · rw [describes.selectors, describes.rules, unique, count]
        exact length_firsts_le texts
      · rw [describes.headers, describes.rules]
        exact fewer
      · rw [describes.selectors, describes.rules, unique, count, List.length_eq_zero_iff,
          List.length_eq_zero_iff]
        exact firsts_eq_nil_iff
    · exact .inl overflow

namespace Forest

/-- Two blocks with one header. Both list the second style rule, whose parent is the later block;
the first style rule and the last one have the same text. -/
def twinBlocks : Forest :=
  ⟨#[⟨.sheet, [1, 2], none⟩, ⟨.grouping "media".toList (some "print".toList) none, [3, 4], none⟩,
    ⟨.grouping "media".toList (some "print".toList) none, [4, 5], none⟩,
    ⟨.style (some "b".toList) [], [], some 1⟩, ⟨.style (some "c".toList) [], [], some 2⟩,
    ⟨.style (some "b".toList) [], [], some 2⟩]⟩

def twinScore : Score :=
  let header : Header.Record := ⟨some "media".toList, some "print".toList, 2⟩
  ⟨["b".toList, "c".toList], [header, header],
    [⟨some "b".toList, 1⟩, ⟨some "c".toList, 1⟩, ⟨some "b".toList, 1⟩]⟩

theorem score_twinBlocks : twinBlocks.score (some 0) = .ok twinScore := by decide +kernel

/-- Of three rules two have one selector, and the two headers of one text both count. -/
theorem score_consistent_twinBlocks :
    twinBlocks.score (some 0) = .ok twinScore ∧
    ∃ report, Report.ofScore "x".toList twinScore = .ok report ∧ report.summary.totalRules = 3 ∧
      report.summary.uniqueSelectors = 2 ∧ report.summary.headers = 2 ∧
      report.summary.maxComplexity.IsGreatest [1, 1, 1] ∧
      report.summary.maxHeaderWeight.IsGreatest [2, 2] ∧
      twinScore.selectors.map some = (twinScore.rules.map WeightedRule.selectorText).eraseDups := by
  obtain ⟨selectors, -, summary⟩ := score_consistent score_twinBlocks
  rcases summary "x".toList with ⟨overflow, -⟩ | ⟨report, made, describes, -⟩
  · have fine : (Report.ofScore "x".toList twinScore).toBool = true := by decide +kernel
    rw [overflow] at fine
    cases fine
  · exact ⟨score_twinBlocks, report, made, describes.rules, describes.selectors, describes.headers,
      describes.maxComplexity, describes.maxHeaderWeight, selectors⟩

end Forest
end StyleScore
