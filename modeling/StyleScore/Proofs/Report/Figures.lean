import Mathlib.Algebra.Order.Field.Basic
import Mathlib.Algebra.Order.Field.Rat
import Mathlib.Tactic.Ring
import StyleScore.Proofs.Outcome
import StyleScore.Proofs.Value.Refusal
import StyleScore.Report.Page

/-!
The figures of a report. Whole numbers always have a greatest one, and they have a mean unless it is
too large for a binary number; a report on a score cannot be made for that reason alone. A report
that is made can be written, as data and as a page, unless the score has a number with too many
digits: the greatest figures and the mean have no more digits than the numbers they are taken from.
-/
namespace StyleScore

namespace Value

/-! ### The greatest of whole numbers, and their mean -/

/-- No number is greater than the value, and it is one of the numbers where there are any. -/
def IsGreatest (value : Value) (numbers : List Int) : Prop :=
  ∃ m, value = .int m ∧ (∀ n ∈ numbers, n ≤ m) ∧ (numbers ≠ [] → m ∈ numbers)

theorem exists_greatestFrom_int (current : Int) (numbers : List Int) :
    ∃ m, greatestFrom (.int current) (numbers.map .int) = .ok (.int m) ∧
      (∀ n ∈ current :: numbers, n ≤ m) ∧ m ∈ current :: numbers := by
  induction numbers generalizing current with
  | nil => exact ⟨current, rfl, by simp, by simp⟩
  | cons number numbers ih =>
    have compared : (int number).after (int current) = .ok (decide (current < number)) := rfl
    rw [List.map_cons, greatestFrom, compared]
    change ∃ m, (if decide (current < number) = true then _ else _) = _ ∧ _
    by_cases less : current < number
    · obtain ⟨m, found, bound, reached⟩ := ih number
      obtain ⟨first, others⟩ := List.forall_mem_cons.1 bound
      refine ⟨m, by simpa [less] using found, ?_, List.mem_cons_of_mem current reached⟩
      exact List.forall_mem_cons.2 ⟨by omega, bound⟩
    · obtain ⟨m, found, bound, reached⟩ := ih current
      obtain ⟨first, others⟩ := List.forall_mem_cons.1 bound
      refine ⟨m, by simpa [less] using found, ?_, ?_⟩
      · exact List.forall_mem_cons.2 ⟨first, List.forall_mem_cons.2 ⟨by omega, others⟩⟩
      · rcases List.mem_cons.1 reached with rfl | later
        · exact List.mem_cons_self
        · exact List.mem_cons_of_mem _ (List.mem_cons_of_mem _ later)

theorem exists_greatest_int (numbers : List Int) :
    ∃ value, greatest (numbers.map .int) = .ok value ∧ value.IsGreatest numbers := by
  cases numbers with
  | nil => exact ⟨.int 0, rfl, 0, rfl, by simp, fun filled => absurd rfl filled⟩
  | cons number numbers =>
    obtain ⟨m, found, bound, reached⟩ := exists_greatestFrom_int number numbers
    exact ⟨.int m, found, m, rfl, bound, fun _ => reached⟩

theorem numbers_int (numbers : List Int) :
    Value.numbers (numbers.map .int) = .ok (numbers.map .whole) := by
  induction numbers with
  | nil => rfl
  | cons n numbers ih => simp [Value.numbers, number?, ih, Except.map]

/-- A whole number between the bounds, as a rational one. -/
theorem abs_cast_le_iff {n : Int} {bound : Nat} : |(n : Rat)| ≤ bound ↔ n.natAbs ≤ bound := by
  rw [← Int.cast_abs, Int.abs_eq_natAbs]
  norm_cast

theorem abs_foldl_add_le {numbers : List Int} {bound : Nat} (all : ∀ n ∈ numbers, n.natAbs ≤ bound)
    (start : Rat) :
    |(numbers.map Int.cast).foldl (fun a b : Rat => a + b) start| ≤
      |start| + numbers.length * bound := by
  induction numbers generalizing start with
  | nil => simp
  | cons n numbers ih =>
    obtain ⟨first, later⟩ := List.forall_mem_cons.1 all
    calc |((n :: numbers).map Int.cast).foldl (fun a b : Rat => a + b) start|
        ≤ |start + n| + numbers.length * bound := ih later (start + n)
      _ ≤ |start| + |(n : Rat)| + numbers.length * bound := by gcongr; exact abs_add_le start n
      _ ≤ |start| + bound + numbers.length * bound := by gcongr; exact abs_cast_le_iff.2 first
      _ = |start| + (n :: numbers).length * bound := by push_cast [List.length_cons]; ring

/-- A mean that is a whole number is not beyond the bounds of the numbers. -/
theorem natAbs_num_mean_le {numbers : List Int} {bound : Nat} (filled : numbers ≠ [])
    (all : ∀ n ∈ numbers, n.natAbs ≤ bound) {mean : Rat}
    (own : mean = (numbers.map Int.cast).foldl (fun a b : Rat => a + b) 0 / (numbers.length : Rat))
    (whole : mean.den = 1) : mean.num.natAbs ≤ bound := by
  have positive : (0 : Rat) < numbers.length := by
    exact_mod_cast List.length_pos_iff.2 filled
  have sum := abs_foldl_add_le all 0
  rw [← abs_cast_le_iff, Rat.coe_int_num_of_den_eq_one whole, own, abs_div, abs_of_pos positive,
    div_le_iff₀ positive, mul_comm]
  simpa using sum

/-- The mean of whole numbers is a whole number not beyond their bounds, or a binary number, or too
large for one. -/
theorem mean_int_cases (numbers : List Int) :
    (∃ m : Int, mean (numbers.map .int) = .ok (.int m) ∧
      ∀ bound : Nat, (∀ n ∈ numbers, n.natAbs ≤ bound) → m.natAbs ≤ bound) ∨
    (∃ x, mean (numbers.map .int) = .ok (.float x)) ∨
    mean (numbers.map .int) = .error .overflow := by
  by_cases filled : numbers = []
  · subst filled
    exact .inl ⟨0, rfl, fun bound _ => Nat.zero_le bound⟩
  have finite : (numbers.map Number.whole).any (fun n => n.value?.isNone) = false := by
    simp [Number.value?]
  have values : (numbers.map Number.whole).filterMap Number.value? = numbers.map Int.cast := by
    simp [List.filterMap_map, Function.comp_def, Number.value?]
  have unfolded : mean (numbers.map .int) = (meanOf (numbers.map .whole)).map toHundredths := by
    rw [mean, if_neg (by simp [filled]), numbers_int]
    change (meanOf _ >>= fun mean => Except.ok mean.toHundredths) = _
    cases meanOf (numbers.map .whole) <;> rfl
  rw [unfolded, meanOf, finite, values, List.length_map]
  dsimp only
  split
  · cases ‹false = true›
  · split
    · next whole =>
      obtain ⟨-, whole⟩ := Bool.and_eq_true_iff.1 whole
      refine .inl ⟨_, rfl, fun bound all => ?_⟩
      exact natAbs_num_mean_le filled all rfl (of_decide_eq_true whole)
    · split
      · exact .inr (.inl ⟨_, rfl⟩)
      · split
        · exact .inr (.inl ⟨_, rfl⟩)
        · exact .inr (.inr rfl)

/-! ### Values without parts -/

/-- The value has no parts, and JSON knows it. -/
def isSimple : Value → Bool
  | null | bool _ | int _ | float _ | text _ => true
  | _ => false

theorem parts_of_isSimple {v : Value} (simple : v.isSimple = true) : v.parts = [v] := by
  cases v <;> first
    | rfl
    | cases simple

theorem isForeign_of_isSimple {v : Value} (simple : v.isSimple = true) : v.isForeign = false := by
  cases v <;> first
    | rfl
    | cases simple

theorem isPrintable_int {n : Int} :
    (int n).isPrintable = true ↔ n.natAbs < 10 ^ Text.digitLimit := by
  rw [isPrintable, Bool.not_eq_true', ← Nat.not_le, ← Text.isOverlong_iff, Bool.not_eq_true]

theorem isPrintable_iff_of_isSimple {v : Value} (simple : v.isSimple = true) :
    v.isPrintable = true ↔ v.IsWritable := by
  cases v with
  | int n => exact isPrintable_int
  | _ => simp_all [isSimple, isPrintable, IsWritable]

theorem isSimple_ofText? (text : Option Text) : (ofText? text).isSimple = true := by
  cases text <;> rfl

/-- The greatest of whole numbers has no more digits than they have. -/
theorem greatest_int_spec {numbers : List Int} {value : Value}
    (found : greatest (numbers.map .int) = .ok value) :
    value.isSimple = true ∧
      ((∀ n ∈ numbers, n.natAbs < 10 ^ Text.digitLimit) → value.isPrintable = true) := by
  obtain ⟨own, same, m, rfl, -, reached⟩ := exists_greatest_int numbers
  cases numbers with
  | nil =>
    cases found
    exact ⟨rfl, fun _ => by decide⟩
  | cons n numbers =>
    obtain rfl := Except.ok.inj (same.symm.trans found)
    exact ⟨rfl, fun short => isPrintable_int.2 (short m (reached (by simp)))⟩

/-- The mean of whole numbers has no more digits than they have. -/
theorem mean_int_spec {numbers : List Int} {value : Value}
    (found : mean (numbers.map .int) = .ok value) :
    value.isSimple = true ∧
      ((∀ n ∈ numbers, n.natAbs < 10 ^ Text.digitLimit) → value.isPrintable = true) := by
  rcases mean_int_cases numbers with ⟨m, same, bounded⟩ | ⟨x, same⟩ | overflow
  · obtain rfl := Except.ok.inj (same.symm.trans found)
    refine ⟨rfl, fun short => isPrintable_int.2 ?_⟩
    have positive : 0 < 10 ^ Text.digitLimit := Nat.pow_pos (by decide)
    have small :=
      bounded (10 ^ Text.digitLimit - 1) fun n member => Nat.le_sub_one_of_lt (short n member)
    exact Nat.lt_of_le_sub_one positive small
  · obtain rfl := Except.ok.inj (same.symm.trans found)
    exact ⟨rfl, fun _ => rfl⟩
  · cases overflow.symm.trans found

end Value

namespace Score

def complexities (score : Score) : List Int := score.rules.map WeightedRule.complexity

def weights (score : Score) : List Int := score.headers.map fun record => (record.weight : Int)

/-- How many entries the sections of a score have, and the numbers in the entries. -/
def numbers (score : Score) : List Int :=
  (score.rules.length : Int) :: (score.selectors.length : Int) :: (score.headers.length : Int) ::
    (score.complexities ++ score.weights)

/-- A number of the score has too many digits to be written. -/
def Exceeds (score : Score) : Prop := ∃ n ∈ score.numbers, 10 ^ Text.digitLimit ≤ n.natAbs

end Score

namespace Report
open Value

/-- The complexities of the weighted rules have no mean that can be written. -/
def Overflows (score : Score) : Prop :=
  Value.mean (score.rules.map fun rule => .int rule.complexity) = .error .overflow

section Parts

variable {P : Value → Prop} (objects : ∀ fields, P (.object fields))

include objects

theorem forall_parts_summary (summary : Summary) :
    (∀ part ∈ summary.toValue.parts, P part) ↔ ∀ value ∈ summary.values, ∀ part ∈ value.parts,
      P part := by
  simp [Summary.toValue, Summary.values, forall_parts_object objects]

theorem forall_parts_ruleRow (row : RuleRow) :
    (∀ part ∈ row.toValue.parts, P part) ↔ ∀ value ∈ row.values, ∀ part ∈ value.parts, P part := by
  simp [RuleRow.toValue, RuleRow.values, forall_parts_object objects]

theorem forall_parts_headerRow (row : HeaderRow) :
    (∀ part ∈ row.toValue.parts, P part) ↔ ∀ value ∈ row.values, ∀ part ∈ value.parts, P part := by
  simp [HeaderRow.toValue, HeaderRow.values, forall_parts_object objects]

/-- The parts of the data of a report are those of its values and selectors, containers apart. -/
theorem forall_parts_toValue (lists : ∀ items, P (.list items)) (report : Report) :
    (∀ part ∈ report.toValue.parts, P part) ↔
      (∀ value ∈ report.values, ∀ part ∈ value.parts, P part) ∧ ∀ part ∈ report.selectors.parts,
        P part := by
  have rows : (∀ part ∈ (Value.list (report.rules.map RuleRow.toValue)).parts, P part) ↔
      ∀ value ∈ report.rules.flatMap RuleRow.values, ∀ part ∈ value.parts, P part := by
    simp only [forall_parts_list lists, List.forall_mem_map, forall_parts_ruleRow objects,
      List.forall_mem_flatMap]
  have headers : (∀ part ∈ (Value.list (report.headers.map HeaderRow.toValue)).parts, P part) ↔
      ∀ value ∈ report.headers.flatMap HeaderRow.values, ∀ part ∈ value.parts, P part := by
    simp only [forall_parts_list lists, List.forall_mem_map, forall_parts_headerRow objects,
      List.forall_mem_flatMap]
  simp only [toValue, forall_parts_object objects, List.forall_mem_cons, rows, headers,
    forall_parts_summary objects, values, List.forall_mem_append]
  tauto

end Parts

/-! ### The report on a score -/

/-- The report on a score with these figures. -/
def withFigures (source : Text) (score : Score) (most mean heaviest : Value) : Report where
  source := .text source
  summary :=
    ⟨score.rules.length, score.selectors.length, score.headers.length, most, mean, heaviest⟩
  selectors := .list (score.selectors.map .text)
  headers := score.headers.map Header.Record.row
  rules := score.rules.map WeightedRule.row

theorem ofScore_eq (source : Text) (score : Score) :
    ofScore source score = (do
      let most ← Value.greatest (score.complexities.map .int)
      let mean ← Value.mean (score.complexities.map .int)
      let heaviest ← Value.greatest (score.weights.map .int)
      return withFigures source score most mean heaviest) := by
  unfold ofScore collect Score.complexities Score.weights
  simp only [Value.length, List.length_map, List.map_map]
  rfl

theorem overflows_iff (score : Score) :
    Overflows score ↔ Value.mean (score.complexities.map .int) = .error .overflow := by
  rw [Score.complexities, List.map_map]
  rfl

/-- A report on a score can be made unless the mean is too large. -/
theorem ofScore_cases (source : Text) (score : Score) :
    (∃ report, ofScore source score = .ok report ∧ ¬Overflows score) ∨
      (ofScore source score = .error .overflow ∧ Overflows score) := by
  obtain ⟨most, greatest, -⟩ := exists_greatest_int score.complexities
  obtain ⟨heaviest, greatestWeight, -⟩ := exists_greatest_int score.weights
  rw [ofScore_eq, greatest, greatestWeight, overflows_iff]
  rcases mean_int_cases score.complexities with ⟨m, success, -⟩ | ⟨x, success⟩ | overflow
  · rw [success]
    exact .inl ⟨_, rfl, by simp⟩
  · rw [success]
    exact .inl ⟨_, rfl, by simp⟩
  · rw [overflow]
    exact .inr ⟨rfl, rfl⟩

section Made

variable {source : Text} {score : Score} {report : Report}

/-- The figures of a report on a score. -/
theorem exists_figures (made : ofScore source score = .ok report) :
    ∃ most mean heaviest, Value.greatest (score.complexities.map .int) = .ok most ∧
      Value.mean (score.complexities.map .int) = .ok mean ∧
      Value.greatest (score.weights.map .int) = .ok heaviest ∧
      report = withFigures source score most mean heaviest := by
  rw [ofScore_eq] at made
  obtain ⟨most, greatest, made⟩ := bind_eq_ok.1 made
  obtain ⟨mean, found, made⟩ := bind_eq_ok.1 made
  obtain ⟨heaviest, greatestWeight, made⟩ := bind_eq_ok.1 made
  exact ⟨most, mean, heaviest, greatest, found, greatestWeight, (Except.ok.inj made).symm⟩

/-- The values of a report on a score: besides texts there are the figures and the numbers. -/
theorem forall_values_withFigures {P : Value → Prop} (texts : ∀ text, P (ofText? text))
    (source : Text) (score : Score) (most mean heaviest : Value) :
    (∀ value ∈ (withFigures source score most mean heaviest).values, P value) ↔
      (P most ∧ P mean ∧ P heaviest) ∧ ∀ n ∈ score.numbers, P (.int n) := by
  have source : P (.text source) := texts (some source)
  have rows : (∀ value ∈ (score.rules.map WeightedRule.row).flatMap RuleRow.values, P value) ↔
      ∀ n ∈ score.complexities, P (.int n) := by
    simp only [Score.complexities, List.forall_mem_flatMap, List.forall_mem_map, RuleRow.values,
      WeightedRule.row, List.forall_mem_cons, texts, List.not_mem_nil, false_implies, implies_true,
      true_and, and_true]
  have headers : (∀ value ∈ (score.headers.map Header.Record.row).flatMap HeaderRow.values,
      P value) ↔
      ∀ n ∈ score.weights, P (.int n) := by
    simp only [Score.weights, List.forall_mem_flatMap, List.forall_mem_map, HeaderRow.values,
      Header.Record.row, List.forall_mem_cons, texts, List.not_mem_nil, false_implies, implies_true,
      true_and, and_true]
  simp only [values, withFigures, Summary.values, Score.numbers, List.forall_mem_append,
    List.forall_mem_cons, rows, headers, source]
  tauto

/-- The values of a report on a score are texts and numbers, and all can be printed unless the score
has a number with too many digits. -/
theorem values_of_ofScore (made : ofScore source score = .ok report) :
    (∀ value ∈ report.values, value.isSimple = true) ∧
      ((∀ value ∈ report.values, value.isPrintable = true) ↔ ¬score.Exceeds) := by
  obtain ⟨most, mean, heaviest, greatest, found, greatestWeight, rfl⟩ := exists_figures made
  obtain ⟨mostSimple, mostShort⟩ := greatest_int_spec greatest
  obtain ⟨meanSimple, meanShort⟩ := mean_int_spec found
  obtain ⟨heaviestSimple, heaviestShort⟩ := greatest_int_spec greatestWeight
  have printed (text : Option Text) : (ofText? text).isPrintable = true := by cases text <;> rfl
  have short : ¬score.Exceeds ↔ ∀ n ∈ score.numbers, n.natAbs < 10 ^ Text.digitLimit := by
    simp only [Score.Exceeds, not_exists, not_and, Nat.not_le]
  rw [forall_values_withFigures isSimple_ofText?, forall_values_withFigures printed, short]
  refine ⟨⟨⟨mostSimple, meanSimple, heaviestSimple⟩, fun _ _ => rfl⟩, ?_⟩
  simp only [isPrintable_int]
  constructor
  · exact And.right
  · intro all
    have within := all
    simp only [Score.numbers, List.forall_mem_cons, List.forall_mem_append] at within
    obtain ⟨-, -, -, complexities, weights⟩ := within
    exact ⟨⟨mostShort complexities, meanShort complexities, heaviestShort weights⟩, all⟩

/-- Besides containers and texts the data of a report on a score has only its values. -/
theorem forall_parts_of_ofScore {P : Value → Prop} (lists : ∀ items, P (.list items))
    (objects : ∀ fields, P (.object fields)) (texts : ∀ text, P (.text text))
    (made : ofScore source score = .ok report) :
    (∀ part ∈ report.toValue.parts, P part) ↔ ∀ value ∈ report.values, P value := by
  obtain ⟨simple, -⟩ := values_of_ofScore made
  have selectors : ∀ part ∈ report.selectors.parts, P part := by
    obtain ⟨_, _, _, -, -, -, rfl⟩ := exists_figures made
    refine (forall_parts_list lists).2 (List.forall_mem_map.2 fun text _ part inside => ?_)
    rw [List.mem_singleton.1 inside]
    exact texts text
  rw [forall_parts_toValue objects lists]
  constructor
  · rintro ⟨all, -⟩ value member
    exact all value member value (by rw [parts_of_isSimple (simple value member)]; simp)
  · intro all
    refine ⟨fun value member part inside => ?_, selectors⟩
    rw [parts_of_isSimple (simple value member)] at inside
    rw [List.mem_singleton.1 inside]
    exact all value member

/-- A report on a score can be written, as data and as a page, unless the score has a number with
too many digits; then both fail for that reason. -/
theorem written_of_ofScore (made : ofScore source score = .ok report) :
    (¬score.Exceeds → report.toValue.HasJson ∧ report.render = .ok report.page) ∧
      (score.Exceeds → report.toValue.toJson = .error .overlongInteger ∧
        report.render = .error .overlongInteger) := by
  obtain ⟨simple, printable⟩ := values_of_ofScore made
  have page : report.values.all isPrintable = true ↔ ¬score.Exceeds := by
    rw [List.all_eq_true, printable]
  have data : report.toValue.HasJson ↔ ¬score.Exceeds := by
    rw [hasJson_iff, ← printable, forall_parts_of_ofScore (P := IsWritable) (fun _ => trivial)
      (fun _ => trivial) (fun _ => trivial) made]
    exact forall₂_congr fun value member => (isPrintable_iff_of_isSimple (simple value member)).symm
  have known : ∀ part ∈ report.toValue.parts, part.isForeign = false :=
    (forall_parts_of_ofScore (fun _ => rfl) (fun _ => rfl) (fun _ => rfl) made).2
      fun value member =>
      isForeign_of_isSimple (simple value member)
  constructor
  · intro short
    exact ⟨data.2 short, if_pos (page.2 short)⟩
  · intro exceeds
    exact ⟨toJson_of_not_hasJson known fun form => data.1 form exceeds,
      if_neg fun all => page.1 all exceeds⟩

end Made

end Report
end StyleScore
