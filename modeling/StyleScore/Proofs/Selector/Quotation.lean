import StyleScore.Proofs.Selector.Segment

/-!
Quoted values in the tests of a selector. A list is cut and completed character by character, so
what stands between two quotes counts like everything else. A value is contained when, inside
brackets, it is cut nowhere and leads back to the depth where it starts (`Contained`). How a nested
selector is completed follows from its completion (`nest_eq_apply`). Exactly contained values can
stand for each other everywhere without changing that; in the nested selector itself they must also
agree on whether they hold an `&` (`completion_fill_iff`).
-/
namespace StyleScore.Selector

/-! ### Texts one behind the other -/

/-- The depth behind a text. -/
def depthBehind (depth : Nat) (text : Text) : Nat := text.foldl depthAfter depth

@[simp]
theorem prepend_prepend (text more : Text) (segments : List Text) :
    prepend text (prepend more segments) = prepend (text ++ more) segments := by
  cases segments with
  | nil => rfl
  | cons segment segments => simp [prepend]

/-- A text is cut the same way whatever follows it. -/
theorem segmentsFrom_append (depth : Nat) (text : Text) : ∃ done last, ∀ rest,
    segmentsFrom depth (text ++ rest) =
      done ++ prepend last (segmentsFrom (depthBehind depth text) rest) := by
  induction text generalizing depth with
  | nil => exact ⟨[], [], Spans.nil depth⟩
  | cons c text ih =>
    by_cases cut : c = ',' ∧ depth = 0
    · obtain ⟨rfl, rfl⟩ := cut
      obtain ⟨done, last, found⟩ := ih 0
      exact ⟨[] :: done, last, fun rest => congrArg ([] :: ·) (found rest)⟩
    · have uncut : c = ',' → 0 < depth :=
        fun comma => Nat.pos_of_ne_zero fun top => cut ⟨comma, top⟩
      obtain ⟨done, last, found⟩ := ih (depthAfter depth c)
      cases done with
      | nil =>
        refine ⟨[], c :: last, fun rest => ?_⟩
        have one := spans_char uncut (text ++ rest)
        rw [found rest, List.nil_append, prepend_prepend] at one
        exact one
      | cons first done =>
        refine ⟨(c :: first) :: done, last, fun rest => ?_⟩
        have one := spans_char uncut (text ++ rest)
        rw [found rest] at one
        exact one

/-- A text that makes one segment spans its depths. -/
theorem spans_of_single {depth : Nat} {text segment : Text}
    (single : segmentsFrom depth text = [segment]) :
    Spans depth (depthBehind depth text) text := by
  obtain ⟨done, last, found⟩ := segmentsFrom_append depth text
  have whole := found []
  rw [List.append_nil, single] at whole
  have joined := joinWith_segmentsFrom depth text
  cases done with
  | nil =>
    have same : segment = last := by simpa [segmentsFrom, prepend] using whole
    rw [single, same] at joined
    intro rest
    rw [found rest, show last = text from joined]
    rfl
  | cons first done => simp [segmentsFrom, prepend] at whole

/-- One bracket more around a text leads at most one deeper behind it. -/
theorem depthBehind_succ_le (depth : Nat) (text : Text) :
    depthBehind (depth + 1) text ≤ depthBehind depth text + 1 := by
  have grows (first second : Nat) (near : second ≤ first + 1) :
      text.foldl depthAfter second ≤ text.foldl depthAfter first + 1 := by
    induction text generalizing first second with
    | nil => exact near
    | cons c text ih =>
      apply ih
      unfold depthAfter
      split
      · omega
      · split <;> omega
  exact grows depth (depth + 1) le_rfl

theorem Spans.cons_of_ne {depth last : Nat} {c : Char} {text : Text} (other : c ≠ ',')
    (spans : Spans (depthAfter depth c) last text) : Spans depth last (c :: text) :=
  .cons (fun comma => absurd comma other) spans

theorem spans_opening (depth count : Nat) :
    Spans depth (depth + count) (List.replicate count '(') := by
  induction count generalizing depth with
  | zero => exact .nil depth
  | succ count ih =>
    have deeper : depth + (count + 1) = depthAfter depth '(' + count := by
      rw [show depthAfter depth '(' = depth + 1 from rfl]
      omega
    rw [deeper, List.replicate_succ]
    exact .cons_of_ne (by decide) (ih _)

theorem spans_closing (depth count : Nat) :
    Spans depth (depth - count) (List.replicate count ')') := by
  induction count generalizing depth with
  | zero => exact .nil depth
  | succ count ih =>
    have higher : depth - (count + 1) = depthAfter depth ')' - count := by
      rw [show depthAfter depth ')' = depth - 1 from rfl]
      omega
    rw [higher, List.replicate_succ]
    exact .cons_of_ne (by decide) (ih _)

/-- Inside brackets a text without brackets leads nowhere. -/
theorem spans_inside {text : Text} (plain : ∀ c ∈ text, c ∉ ['(', ')', '[', ']']) (depth : Nat) :
    Spans (depth + 1) (depth + 1) text := by
  induction text with
  | nil => exact .nil _
  | cons c text ih =>
    obtain ⟨first, others⟩ := List.forall_mem_cons.1 plain
    refine .cons (fun _ => Nat.succ_pos depth) ?_
    rw [depthAfter_of_plain first]
    exact ih others

/-! ### Places for a value -/

/-- Inside brackets the value is cut nowhere and leads back to the depth where it starts. -/
def Contained (value : Text) : Prop := ∀ depth, Spans (depth + 1) (depth + 1) value

theorem contained_of_plain {value : Text} (plain : ∀ c ∈ value, c ∉ ['(', ')', '[', ']']) :
    Contained value :=
  spans_inside plain

/-- A place for a quoted value in a test, with everything around it. -/
structure Place where
  before : Text
  /-- From the bracket that opens the test to the quote. -/
  test : Text
  /-- From the other quote to the bracket that closes the test. -/
  trail : Text
  after : Text
  plain_test : ∀ c ∈ test, c ∉ ['(', ')', '[', ']']
  plain_trail : ∀ c ∈ trail, c ∉ ['(', ')', '[', ']']

namespace Place

/-- The selector with the value at the place. -/
def fill (place : Place) (value : Text) : Text :=
  place.before ++ '[' :: (place.test ++
    '"' :: (value ++ '"' :: (place.trail ++ ']' :: place.after)))

theorem spans_test (place : Place) (depth : Nat) :
    Spans depth (depth + 1) ('[' :: (place.test ++ ['"'])) := by
  refine .cons_of_ne (by decide) (.append (spans_inside place.plain_test depth) ?_)
  exact spans_inside (by decide) depth

/-- Up to the quote the text is cut the same way whatever the value is. -/
theorem segmentsFrom_fill (place : Place) : ∃ done last depth, ∀ value,
    segmentsFrom 0 (place.fill value) = done ++ prepend (last ++ '[' :: (place.test ++ ['"']))
      (segmentsFrom (depth + 1) (value ++ '"' :: (place.trail ++ ']' :: place.after))) := by
  obtain ⟨done, last, found⟩ := segmentsFrom_append 0 place.before
  refine ⟨done, last, depthBehind 0 place.before, fun value => ?_⟩
  have tested :=
    place.spans_test (depthBehind 0 place.before) (value ++
      '"' :: (place.trail ++ ']' :: place.after))
  rw [← prepend_prepend, ← tested, fill, found]
  simp

/-- A contained value stays in one part, and all else about the parts is the same for every such
value. -/
theorem split_fill (place : Place) : ∃ done lead trail others, ∀ value, Contained value →
    split (place.fill value) = done ++ (lead ++ (value ++ trail)) :: others := by
  obtain ⟨done, last, depth, found⟩ := place.segmentsFrom_fill
  obtain ⟨segment, segments, rest⟩ := List.exists_cons_of_ne_nil
    (segmentsFrom_ne_nil (depth + 1) (place.trail ++ ']' :: place.after))
  have black : Text.isBlank '"' = false := by decide
  refine ⟨(done.map Text.trim).filter (· ≠ []), Text.trimStart (last ++ '[' :: place.test) ++ ['"'],
    '"' :: Text.trimEnd segment, (segments.map Text.trim).filter (· ≠ []),
    fun value contained => ?_⟩
  have inside : Spans (depth + 1) (depth + 1) ['"'] := spans_inside (by decide) depth
  have quote : segmentsFrom (depth + 1) ('"' :: (place.trail ++ ']' :: place.after)) =
      ('"' :: segment) :: segments := by
    rw [← List.singleton_append, inside, rest]
    rfl
  have whole : segmentsFrom 0 (place.fill value) =
      done ++ ((last ++ '[' :: place.test) ++ '"' :: (value ++ '"' :: segment)) :: segments := by
    rw [found, contained depth, quote]
    simp [prepend]
  rw [split, whole, List.map_append, List.map_cons, Text.trim_between black black,
    List.filter_append, List.filter_cons_of_pos (by simp)]
  simp

theorem length_split_fill (place : Place) {value other : Text} (contained : Contained value)
    (containedToo : Contained other) :
    (split (place.fill other)).length = (split (place.fill value)).length := by
  obtain ⟨done, lead, trail, others, found⟩ := place.split_fill
  rw [found value contained, found other containedToo, List.length_append, List.length_append,
    List.length_cons, List.length_cons]

end Place

/-! ### How a nested selector is completed -/

/-- What decides how the selector of a nested rule is completed: the number of parts around it,
whether they are wrapped, and for each of its own parts whether `&` is replaced in it. -/
structure Completion where
  around : Nat
  wrapped : Bool
  replaced : List Bool
  deriving DecidableEq

def completion (parent own : Text) : Completion where
  around := (split parent).length
  wrapped := asParent parent ≠ parent
  replaced := (split own).map fun part => '&' ∈ part

/-- The rule around a nested one is wrapped when it has several parts. -/
theorem asParent_ne_iff (parent : Text) : asParent parent ≠ parent ↔ 1 < (split parent).length := by
  unfold asParent
  split
  · next several =>
    refine iff_of_true (fun same => ?_) several
    have lengths := congrArg List.length same
    rw [List.length_append, List.length_append, List.length_singleton] at lengths
    omega
  · next single => exact iff_of_false (fun differs => differs rfl) single

/-- The completed selector, part by part. -/
def Completion.apply (completion : Completion) (parent own : Text) : Text :=
  let around := if completion.wrapped then ":is(".toList ++ parent ++ [')'] else parent
  let complete (part : Text) (replaced : Bool) : Text :=
    if replaced then Text.replaceChar '&' around part else around ++ ' ' :: part
  Text.joinWith ", ".toList (List.zipWith complete (split own) completion.replaced)

theorem nest_eq_apply (parent own : Text) :
    nest parent own = (completion parent own).apply parent own := by
  have wrapped :
      (if (completion parent own).wrapped then ":is(".toList ++ parent ++ [')'] else parent) =
        asParent parent := by
    simp only [completion, decide_eq_true_eq, asParent_ne_iff]
    rfl
  rw [nest, Completion.apply, wrapped, completion, List.zipWith_map_right, List.zipWith_self]
  simp only [decide_eq_true_eq]
  rfl

theorem completion_eq_of_length {parent other : Text} (own : Text)
    (same : (split other).length = (split parent).length) :
    completion other own = completion parent own := by
  simp only [completion, Completion.mk.injEq, and_true]
  refine ⟨same, ?_⟩
  rw [decide_eq_decide, asParent_ne_iff, asParent_ne_iff, same]

/-! ### Telling values apart -/

/-- A test at a depth, with a text behind it. -/
def probe (depth : Nat) (after : Text) : Place where
  before := List.replicate depth '('
  test := "a=".toList
  trail := []
  after := after
  plain_test := by decide
  plain_trail := by decide

theorem segmentsFrom_probe (depth : Nat) (after value : Text) : ∃ lead, '"' ∈ lead ∧
    segmentsFrom 0 ((probe depth after).fill value) =
      prepend lead (segmentsFrom (depth + 1) (value ++ '"' :: ']' :: after)) := by
  have opening := spans_opening 0 depth
  rw [Nat.zero_add] at opening
  have spans := opening.append ((probe depth after).spans_test depth)
  refine ⟨List.replicate depth '(' ++ '[' :: ((probe depth after).test ++ ['"']), by simp, ?_⟩
  rw [← spans]
  simp [Place.fill, probe]

theorem spans_mark (depth : Nat) : Spans depth (depth - 1) ['"', ']'] :=
  .cons_of_ne (by decide) (.cons_of_ne (by decide) (.nil _))

theorem length_split (text : Text) :
    (split text).length = (segmentsFrom 0 text).countP fun segment => Text.trim segment ≠ [] := by
  rw [split, List.filter_map, List.length_map, List.countP_eq_length_filter]
  rfl

/-- The parts of a probed value that is not cut: itself and those behind the next comma. -/
theorem length_split_probe {depth last : Nat} {value : Text} (spans : Spans (depth + 1) last value)
    (after : Text) :
    (split ((probe depth after).fill value)).length =
      (segmentsFrom (last - 1) after).tail.countP (fun segment => Text.trim segment ≠ []) + 1 := by
  obtain ⟨lead, quoted, found⟩ := segmentsFrom_probe depth after value
  obtain ⟨segment, segments, rest⟩ :=
    List.exists_cons_of_ne_nil (segmentsFrom_ne_nil (last - 1) after)
  have whole := (spans.append (spans_mark last)) after
  rw [List.append_assoc] at whole
  have filled : Text.trim (lead ++ (value ++ (['"', ']'] ++ segment))) ≠ [] :=
    Text.trim_ne_nil_of_mem (List.mem_append_left _ quoted) (by decide)
  rw [length_split, found, show '"' :: ']' :: after = ['"', ']'] ++ after from rfl, whole, rest]
  simp only [prepend, List.append_assoc, List.tail_cons]
  rw [List.countP_cons_of_pos (by simpa using filled)]

/-- A probed value that makes one part is cut nowhere. -/
theorem spans_of_length_split {depth : Nat} {value : Text}
    (single : (split ((probe depth []).fill value)).length = 1) :
    Spans (depth + 1) (depthBehind (depth + 1) value) value := by
  obtain ⟨lead, quoted, found⟩ := segmentsFrom_probe depth [] value
  obtain ⟨done, last, cut⟩ := segmentsFrom_append (depth + 1) value
  have closing : segmentsFrom (depthBehind (depth + 1) value) ['"', ']'] = [['"', ']']] :=
    spans_mark _ []
  rw [length_split, found, cut, closing] at single
  cases done with
  | nil =>
    have alone := cut []
    rw [List.append_nil] at alone
    exact spans_of_single (by simpa [segmentsFrom, prepend] using alone)
  | cons first done =>
    -- the parts before the first comma and behind the last one both hold a quote
    have front : Text.trim (lead ++ first) ≠ [] :=
      Text.trim_ne_nil_of_mem (List.mem_append_left _ quoted) (by decide)
    have back : Text.trim (last ++ ['"', ']']) ≠ [] :=
      Text.trim_ne_nil_of_mem (List.mem_append_right last List.mem_cons_self) (by decide)
    simp [prepend, front, back] at single

/-- A contained value in a test of its own makes one part. -/
theorem split_probe {value : Text} (contained : Contained value) :
    split ((probe 0 []).fill value) = ["[a=\"".toList ++ (value ++ ['"', ']'])] := by
  have spans : Spans 0 0 ("[a=\"".toList ++ (value ++ ['"', ']'])) :=
    .append ((probe 0 []).spans_test 0) ((contained 0).append (spans_mark 1))
  have trimmed : Text.trim ("[a=\"".toList ++ (value ++ ['"', ']'])) =
      "[a=\"".toList ++ (value ++ ['"', ']']) := by
    have cut :=
      Text.trim_between (show Text.isBlank '[' = false by decide) (show Text.isBlank ']' =
        false by decide)
      [] ("a=\"".toList ++ (value ++ ['"'])) []
    simpa [Text.trimStart, Text.trimEnd] using cut
  rw [show (probe 0 []).fill value = "[a=\"".toList ++ (value ++ ['"', ']']) from rfl, split,
    spans.segmentsFrom_eq, List.map_singleton, trimmed]
  rfl

/-- Closing brackets and then a comma: the comma cuts unless too many brackets are open. -/
theorem countP_closing (depth count : Nat) :
    (segmentsFrom depth (List.replicate count ')' ++ ",b".toList)).tail.countP
      (fun segment => Text.trim segment ≠ []) = if depth ≤ count then 1 else 0 := by
  rw [spans_closing depth count]
  by_cases closed : depth ≤ count
  · rw [Nat.sub_eq_zero_of_le closed, if_pos closed]
    rfl
  · have inside : Spans (depth - count) (depth - count) ",b".toList := by
      rw [show depth - count = (depth - count - 1) + 1 by omega]
      exact spans_inside (by decide) _
    have whole := inside []
    rw [List.append_nil] at whole
    rw [whole, if_neg closed]
    rfl

/-- A value that makes as many parts as a contained one in every test is contained. -/
theorem contained_of_length {value other : Text} (contained : Contained value)
    (same : ∀ place : Place, (split (place.fill other)).length =
      (split (place.fill value)).length) :
    Contained other := by
  have spans (depth : Nat) : Spans (depth + 1) (depthBehind (depth + 1) other) other := by
    apply spans_of_length_split
    rw [same, length_split_probe (contained depth)]
    rfl
  have level (depth : Nat) : depthBehind (depth + 1) other - 1 = depth := by
    have cuts (count : Nat) : (if depthBehind (depth + 1) other - 1 ≤ count then 1 else 0) =
        if depth ≤ count then 1 else 0 := by
      have both := same (probe depth (List.replicate count ')' ++ ",b".toList))
      rw [length_split_probe (spans depth), length_split_probe (contained depth), countP_closing,
        countP_closing] at both
      simpa using both
    have below := cuts (depthBehind (depth + 1) other - 1)
    have above := cuts depth
    rw [if_pos le_rfl] at below
    rw [if_pos (le_refl depth)] at above
    split at below <;> split at above <;> omega
  intro depth
  have back : depthBehind (depth + 1) other = depth + 1 := by
    have deeper := depthBehind_succ_le (depth + 1) other
    have here := level depth
    have there := level (depth + 1)
    omega
  have found := spans depth
  rwa [back] at found

/-- A nested selector is completed as its completion says. Another value can stand for a contained
one in the selector around a nested one exactly if it is contained; in the nested one itself,
exactly if it is contained and the two agree on `&`. -/
theorem completion_fill_iff {value : Text} (contained : Contained value) (other : Text) :
    (∀ parent own, nest parent own = (completion parent own).apply parent own) ∧
    ((∀ (place : Place) (own : Text),
        completion (place.fill other) own = completion (place.fill value) own) ↔ Contained other) ∧
      ((∀ (parent : Text) (place : Place),
        completion parent (place.fill other) = completion parent (place.fill value)) ↔
          Contained other ∧ ('&' ∈ other ↔ '&' ∈ value)) := by
  refine ⟨nest_eq_apply, ⟨fun same => ?_, fun containedToo place own => ?_⟩,
    ⟨fun same => ?_, fun ⟨containedToo, ampersand⟩ parent place => ?_⟩⟩
  · apply contained_of_length contained
    intro place
    exact congrArg Completion.around (same place [])
  · apply completion_eq_of_length
    exact place.length_split_fill contained containedToo
  · have replaced (place : Place) := congrArg Completion.replaced (same [] place)
    have containedToo : Contained other := by
      apply contained_of_length contained
      intro place
      simpa [completion] using congrArg List.length (replaced place)
    refine ⟨containedToo, ?_⟩
    have alone := replaced (probe 0 [])
    simpa [completion, split_probe contained, split_probe containedToo] using alone
  · obtain ⟨done, lead, trail, others, found⟩ := place.split_fill
    simp [completion, found value contained, found other containedToo, ampersand]

/-- A letter, and a bracket with a comma in its place. -/
theorem completion_fill_iff_short : Contained "x".toList ∧
    (∀ parent own, nest parent own = (completion parent own).apply parent own) ∧
    ((∀ (place : Place) (own : Text),
        completion (place.fill "],".toList) own = completion (place.fill "x".toList) own) ↔
        Contained "],".toList) ∧
      ((∀ (parent : Text) (place : Place),
        completion parent (place.fill "],".toList) = completion parent (place.fill "x".toList)) ↔
          Contained "],".toList ∧ ('&' ∈ "],".toList ↔ '&' ∈ "x".toList)) :=
  have short : Contained "x".toList := contained_of_plain (by decide)
  ⟨short, completion_fill_iff short "],".toList⟩

/-- A bracket and a comma between quotes make a second part, and an `&` between quotes is
replaced. -/
theorem completion_quoted_ne :
    completion "[a=\"],\"]".toList "b".toList ≠ completion "[a=\"xx\"]".toList "b".toList ∧
      nest "[a=\"],\"]".toList "b".toList = ":is([a=\"],\"]) b".toList ∧
      completion "a".toList "[b=\"&\"]".toList ≠ completion "a".toList "[b=\"x\"]".toList ∧
      nest "a".toList "[b=\"&\"]".toList = "[b=\"a\"]".toList := by
  decide

end StyleScore.Selector
