import StyleScore.Proofs.Selector.Splitting

/-!
Lists of selectors whose brackets match. A text is level when its brackets match and no comma stands
outside them (`IsLevel`): at any depth it leads back to that depth and no list is cut in it. The
parts of a list with matching brackets are level, a level text may stand for `&` at any depth, and a
list in `:is()` is level. So a selector completed by the one around it has as many parts as before,
and its brackets match again (`split_nest`).
-/
namespace StyleScore.Selector

/-- One character of a count of open brackets, round and square ones alike. There is no count below
zero. -/
def rise (depth : Nat) (c : Char) : Option Nat :=
  if c = '(' || c = '[' then some (depth + 1)
  else if c = ')' || c = ']' then if depth = 0 then none else some (depth - 1)
  else some depth

/-- The count of open brackets never falls below zero and ends at zero. -/
def IsBalanced (text : Text) : Prop := text.foldlM rise 0 = some 0

instance (text : Text) : Decidable (IsBalanced text) := inferInstanceAs (Decidable (_ = _))

/-- As `rise`, but a comma outside all brackets ends the count. -/
def stay (depth : Nat) (c : Char) : Option Nat :=
  if c = ',' && depth = 0 then none else rise depth c

/-- All brackets match, and no comma stands outside them. -/
def IsLevel (text : Text) : Prop := text.foldlM stay 0 = some 0

variable {depth last next : Nat} {c : Char} {text : Text}

/-! ### One character -/

theorem depthAfter_of_rise (rises : rise depth c = some next) : depthAfter depth c = next := by
  unfold rise at rises
  unfold depthAfter
  split at rises
  · next opens => simpa [opens] using rises
  · next plain =>
    split at rises
    · next closes =>
      split at rises
      · cases rises
      · simpa [plain, closes] using rises
    · next other => simpa [plain, other] using rises

theorem rise_succ (rises : rise depth c = some next) : rise (depth + 1) c = some (next + 1) := by
  unfold rise at rises ⊢
  split at rises
  · next opens =>
    rw [if_pos opens, ← Option.some.inj rises]
  · next plain =>
    rw [if_neg plain]
    split at rises
    · next closes =>
      split at rises
      · cases rises
      · rw [if_pos closes, if_neg (Nat.succ_ne_zero depth), ← Option.some.inj rises]
        exact congrArg some (by omega)
    · next other => rw [if_neg other, ← Option.some.inj rises]

theorem stay_eq_some_iff :
    stay depth c = some next ↔ rise depth c = some next ∧ (c = ',' → 0 < depth) := by
  unfold stay
  by_cases comma : c = ','
  · by_cases top : depth = 0
    · simp [comma, top]
    · simp [comma, top, Nat.pos_of_ne_zero top]
  · simp [comma]

theorem cross_of_stay (stays : stay depth c = some next) : cross depth c = some next := by
  obtain ⟨rises, uncut⟩ := stay_eq_some_iff.1 stays
  exact cross_eq_some_iff.2 ⟨depthAfter_of_rise rises, uncut⟩

/-- Inside one bracket more, commas do not count. -/
theorem stay_succ (rises : rise depth c = some next) : stay (depth + 1) c = some (next + 1) :=
  stay_eq_some_iff.2 ⟨rise_succ rises, fun _ => Nat.succ_pos depth⟩

theorem stay_of_plain (plain : c ∉ ['(', ')', '[', ']', ',']) (depth : Nat) :
    stay depth c = some depth := by
  simp only [List.mem_cons, List.not_mem_nil, or_false, not_or] at plain
  simp [stay, rise, plain]

/-! ### Whole texts -/

theorem rise_of_stay (ran : text.foldlM stay depth = some last) :
    text.foldlM rise depth = some last :=
  foldlM_mono (fun stays => (stay_eq_some_iff.1 stays).1) ran

theorem stay_inside (ran : text.foldlM rise depth = some last) :
    text.foldlM stay (depth + 1) = some (last + 1) := by
  induction text generalizing depth with
  | nil =>
    cases ran
    rfl
  | cons c text ih =>
    obtain ⟨next, rises, later⟩ := foldlM_cons_eq_some.1 ran
    exact foldlM_cons_eq_some.2 ⟨next + 1, stay_succ rises, ih later⟩

theorem IsLevel.balanced (level : IsLevel text) : IsBalanced text := rise_of_stay level

/-- A level text leads back to the depth where it stands, whatever that is. -/
theorem IsLevel.run (level : IsLevel text) (depth : Nat) : text.foldlM stay depth = some depth := by
  induction depth with
  | zero => exact level
  | succ depth ih => exact stay_inside (rise_of_stay ih)

theorem IsBalanced.stay_one (balanced : IsBalanced text) : text.foldlM stay 1 = some 1 :=
  stay_inside balanced

theorem IsLevel.append {more : Text} (level : IsLevel text) (levelToo : IsLevel more) :
    IsLevel (text ++ more) := by
  rw [IsLevel, List.foldlM_append, level]
  exact levelToo

theorem stay_of_blank (blank : Text.isBlank c = true) (depth : Nat) : stay depth c = some depth :=
  stay_of_plain (not_mem_signs_of_blank blank) depth

theorem IsLevel.trim (level : IsLevel text) : IsLevel text.trim := foldlM_trim stay_of_blank level

/-- A level text in place of `&` changes nothing, at whatever depth it is put in. -/
theorem IsLevel.foldlM_replaceChar {parent : Text} (level : IsLevel parent)
    (ran : text.foldlM stay depth = some last) :
    (Text.replaceChar '&' parent text).foldlM stay depth = some last := by
  induction text generalizing depth with
  | nil => exact ran
  | cons c text ih =>
    obtain ⟨next, stays, later⟩ := foldlM_cons_eq_some.1 ran
    rw [Text.replaceChar, List.flatMap_cons, List.foldlM_append]
    refine Option.bind_eq_some_iff.2 ⟨next, ?_, ih later⟩
    split
    · next marked =>
      rw [marked, stay_of_plain (by decide) depth] at stays
      rw [← Option.some.inj stays]
      exact level.run depth
    · exact foldlM_cons_eq_some.2 ⟨next, stays, rfl⟩

/-! ### Segments and parts -/

/-- The segments of a text with matching brackets are level. The first starts where the text
does. -/
theorem level_segments (ran : text.foldlM rise depth = some 0) :
    ∃ segment segments, segmentsFrom depth text = segment :: segments ∧
      segment.foldlM stay depth = some 0 ∧ ∀ s ∈ segments, IsLevel s := by
  induction text generalizing depth with
  | nil => exact ⟨[], [], rfl, ran, by simp⟩
  | cons c text ih =>
    obtain ⟨next, rises, later⟩ := foldlM_cons_eq_some.1 ran
    obtain ⟨segment, segments, found, level, others⟩ := ih later
    by_cases cut : c = ',' ∧ depth = 0
    · obtain ⟨rfl, rfl⟩ := cut
      cases rises
      refine ⟨[], segment :: segments, ?_, rfl, List.forall_mem_cons.2 ⟨level, others⟩⟩
      rw [← found]
      rfl
    · have uncut (comma : c = ',') : 0 < depth := Nat.pos_of_ne_zero fun top => cut ⟨comma, top⟩
      refine ⟨c :: segment, segments, ?_,
        foldlM_cons_eq_some.2 ⟨next, stay_eq_some_iff.2 ⟨rises, uncut⟩, level⟩, others⟩
      have one := spans_char uncut text
      rw [depthAfter_of_rise rises, found] at one
      exact one

/-- A list with matching brackets and something between any two of its commas. -/
structure IsProperList (text : Text) : Prop where
  balanced : IsBalanced text
  filled : ∀ segment ∈ segmentsFrom 0 text, Text.trim segment ≠ []

theorem IsProperList.split_eq (proper : IsProperList text) :
    split text = (segmentsFrom 0 text).map Text.trim := by
  rw [split, List.filter_eq_self]
  simpa using proper.filled

theorem IsProperList.split_ne_nil (proper : IsProperList text) : split text ≠ [] := by
  rw [proper.split_eq, ne_eq, List.map_eq_nil_iff]
  exact segmentsFrom_ne_nil 0 text

theorem IsProperList.level_of_mem_split {part : Text} (proper : IsProperList text)
    (member : part ∈ split text) :
    IsLevel part := by
  obtain ⟨first, others, found, level, levels⟩ := level_segments proper.balanced
  rw [proper.split_eq, found] at member
  obtain ⟨segment, inside, rfl⟩ := List.mem_map.1 member
  rcases List.mem_cons.1 inside with rfl | inside
  · exact IsLevel.trim level
  · exact (levels segment inside).trim

theorem trim_ne_nil_of_mem_split {part : Text} (member : part ∈ split text) :
    Text.trim part ≠ [] := by
  obtain ⟨filled, trimmed⟩ := of_mem_split member
  rwa [Text.trim_of_isTrimmed trimmed]

/-- Text that is not blank stays so with more around it. -/
theorem trim_ne_nil_of_contained {whole : Text} (inside : text <:+: whole)
    (filled : Text.trim text ≠ []) :
    Text.trim whole ≠ [] := by
  obtain ⟨c, member, black⟩ : ∃ c ∈ text, Text.isBlank c = false := by
    simpa [Text.trim_eq_nil_iff] using filled
  exact Text.trim_ne_nil_of_mem (inside.subset member) black

/-! ### A list in another -/

variable {parent own part : Text}

/-- However many parts a list has, it is level as it is written into a nested selector. -/
theorem IsProperList.level_asParent (proper : IsProperList parent) : IsLevel (asParent parent) := by
  rw [asParent]
  split
  · have opening : ":is(".toList.foldlM stay 0 = some 1 := by decide
    rw [IsLevel, List.foldlM_append, List.foldlM_append, opening]
    change (parent.foldlM stay 1 >>= _) = _
    rw [proper.balanced.stay_one]
    rfl
  · next single =>
    obtain ⟨segment, segments, found, level, -⟩ := level_segments proper.balanced
    rw [proper.split_eq, List.length_map, found, List.length_cons] at single
    obtain rfl : segments = [] := List.length_eq_zero_iff.1 (by omega)
    have whole := joinWith_segmentsFrom 0 parent
    rw [found] at whole
    rw [← whole]
    exact level

theorem IsProperList.trim_ne_nil (proper : IsProperList text) : Text.trim text ≠ [] := by
  intro blank
  have alone :=
    (spans_of_cross (foldlM_blanks cross_of_blank ((Text.trim_eq_nil_iff text).1 blank)
      0)).segmentsFrom_eq
  exact proper.filled text (by simp [alone]) blank

theorem infix_asParent (parent : Text) : parent <:+: asParent parent := by
  rw [asParent]
  split
  · exact ⟨":is(".toList, [')'], rfl⟩
  · exact List.infix_rfl

theorem infix_replaceChar (marked : '&' ∈ part) (parent : Text) :
    parent <:+: Text.replaceChar '&' parent part := by
  obtain ⟨front, back, rfl⟩ := List.append_of_mem marked
  refine ⟨Text.replaceChar '&' parent front, Text.replaceChar '&' parent back, ?_⟩
  simp [Text.replaceChar, List.flatMap_append, List.flatMap_cons]

/-- A part completed by a level text is level. -/
theorem level_nestPart (level : IsLevel parent) (levelToo : IsLevel part) :
    IsLevel (nestPart parent part) := by
  rw [nestPart]
  split
  · exact level.foldlM_replaceChar levelToo
  · have gap : IsLevel [' '] := rfl
    exact level.append (gap.append levelToo)

theorem trim_nestPart_ne_nil (outer : Text.trim parent ≠ []) (inner : Text.trim part ≠ []) :
    Text.trim (nestPart parent part) ≠ [] := by
  rw [nestPart]
  split
  · next marked => exact trim_ne_nil_of_contained (infix_replaceChar marked parent) outer
  · exact trim_ne_nil_of_contained ⟨parent ++ [' '], [], by simp⟩ inner

theorem cut_of_level {texts : List Text} (filled : texts ≠ []) (level : ∀ t ∈ texts, IsLevel t) :
    Cut 0 texts 0 := by
  induction texts with
  | nil => exact absurd rfl filled
  | cons first texts ih =>
    obtain ⟨own, others⟩ := List.forall_mem_cons.1 level
    have ran : first.foldlM cross 0 = some 0 := foldlM_mono cross_of_stay own
    by_cases last : texts = []
    · rw [last]
      exact .one ran
    · exact .more ran (ih last others)

theorem balanced_joinWith {texts : List Text} (balanced : ∀ t ∈ texts, IsBalanced t) :
    IsBalanced (Text.joinWith ", ".toList texts) := by
  induction texts with
  | nil => rfl
  | cons first texts ih =>
    obtain ⟨own, others⟩ := List.forall_mem_cons.1 balanced
    by_cases last : texts = []
    · rw [last]
      exact own
    · rw [joinWith_cons last, IsBalanced, List.foldlM_append, List.foldlM_append, own]
      exact ih others

/-- Between proper lists, the nested one keeps its parts: each is completed on its own, and the list
stays proper. -/
theorem split_nest (outer : IsProperList parent) (inner : IsProperList own) :
    split (nest parent own) =
      (split own).map (fun part => Text.trim (nestPart (asParent parent) part)) ∧
      IsProperList (nest parent own) := by
  have level : ∀ t ∈ (split own).map (nestPart (asParent parent)), IsLevel t :=
    List.forall_mem_map.2 fun part member =>
      level_nestPart outer.level_asParent (inner.level_of_mem_split member)
  have filled : ∀ t ∈ (split own).map (nestPart (asParent parent)), Text.trim t ≠ [] :=
    List.forall_mem_map.2 fun part member =>
      trim_nestPart_ne_nil (trim_ne_nil_of_contained (infix_asParent parent) outer.trim_ne_nil)
        (trim_ne_nil_of_mem_split member)
  have parts : (segmentsFrom 0 (nest parent own)).map Text.trim =
      ((split own).map (nestPart (asParent parent))).map Text.trim :=
    (cut_of_level (by simpa using inner.split_ne_nil) level).map_trim_segmentsFrom
  have proper : IsProperList (nest parent own) := by
    refine ⟨balanced_joinWith fun t member => (level t member).balanced, fun segment member => ?_⟩
    have trimmed := List.mem_map_of_mem (f := Text.trim) member
    rw [parts] at trimmed
    obtain ⟨t, inside, same⟩ := List.mem_map.1 trimmed
    rw [← same]
    exact filled t inside
  refine ⟨?_, proper⟩
  rw [proper.split_eq, parts, List.map_map]
  rfl

end StyleScore.Selector
