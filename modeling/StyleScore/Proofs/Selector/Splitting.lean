import StyleScore.Proofs.Selector.Segment

/-!
What splitting a list of selectors keeps. The depth of the brackets goes on through the whole list,
and a closing bracket that closes nothing leaves it at zero. The segments of a text follow one
another at depth zero, and only the last of them may end inside a bracket (`cut_segmentsFrom`).
Trimming them and dropping the empty ones changes nothing of that (`Cut.parts`), so the parts are a
list of their own: each is its only part, joined again they are split in the same places, and lists
with a comma between them are split one after the other (`split_canonical`).
-/
namespace StyleScore.Selector

/-- The depth of the brackets behind a text. -/
def endDepth (text : Text) : Nat := text.foldl depthAfter 0

/-- The depth behind one character, unless it is a comma outside all brackets, where a list is
cut. -/
def cross (depth : Nat) (c : Char) : Option Nat :=
  if c = ',' && depth = 0 then none else some (depthAfter depth c)

variable {depth last next : Nat} {c : Char} {text : Text}

theorem cross_eq_some_iff :
    cross depth c = some next ↔ depthAfter depth c = next ∧ (c = ',' → 0 < depth) := by
  unfold cross
  by_cases comma : c = ','
  · by_cases top : depth = 0
    · simp [comma, top]
    · simp [comma, top, Nat.pos_of_ne_zero top]
  · simp [comma]

theorem not_mem_signs_of_blank (blank : Text.isBlank c = true) : c ∉ ['(', ')', '[', ']', ','] := by
  have none : ∀ d ∈ ['(', ')', '[', ']', ','], Text.isBlank d = false := by decide
  intro sign
  cases blank.symm.trans (none c sign)

theorem cross_of_blank (blank : Text.isBlank c = true) (depth : Nat) :
    cross depth c = some depth := by
  have plain := not_mem_signs_of_blank blank
  simp only [List.mem_cons, List.not_mem_nil, or_false, not_or] at plain
  simp [cross, depthAfter, plain]

/-! ### Counts that go through a text -/

section Counts

variable {step other : Nat → Char → Option Nat}

theorem foldlM_cons_eq_some :
    (c :: text).foldlM step depth = some last ↔ ∃ next, step depth c = some next ∧
      text.foldlM step next = some last := by
  rw [List.foldlM_cons]
  exact Option.bind_eq_some_iff

/-- A text goes through any count that takes each character in the same way. -/
theorem foldlM_mono (each : ∀ {depth c next}, step depth c = some next → other depth c = some next)
    (ran : text.foldlM step depth = some last) : text.foldlM other depth = some last := by
  induction text generalizing depth with
  | nil => exact ran
  | cons c text ih =>
    obtain ⟨next, stepped, later⟩ := foldlM_cons_eq_some.1 ran
    exact foldlM_cons_eq_some.2 ⟨next, each stepped, ih later⟩

theorem foldlM_blanks (still : ∀ {c}, Text.isBlank c = true → ∀ depth, step depth c = some depth)
    (blank : ∀ c ∈ text, Text.isBlank c = true) (depth : Nat) :
    text.foldlM step depth = some depth := by
  induction text with
  | nil => rfl
  | cons c text ih =>
    obtain ⟨first, others⟩ := List.forall_mem_cons.1 blank
    exact foldlM_cons_eq_some.2 ⟨depth, still first depth, ih others⟩

/-- The blanks around a text count for nothing. -/
theorem foldlM_trim (still : ∀ {c}, Text.isBlank c = true → ∀ depth, step depth c = some depth)
    (ran : text.foldlM step depth = some last) : text.trim.foldlM step depth = some last := by
  obtain ⟨before, after, blank, blankToo, whole⟩ := Text.exists_around_trim text
  rw [← whole, List.append_assoc, List.foldlM_append, foldlM_blanks still blank] at ran
  have inner : (text.trim ++ after).foldlM step depth = some last := ran
  rw [List.foldlM_append] at inner
  obtain ⟨behind, core, rest⟩ := Option.bind_eq_some_iff.1 inner
  rw [foldlM_blanks still blankToo] at rest
  rwa [Option.some.inj rest] at core

end Counts

/-- A text that the depth goes through is cut nowhere. -/
theorem spans_of_cross (ran : text.foldlM cross depth = some last) : Spans depth last text := by
  induction text generalizing depth with
  | nil =>
    cases ran
    exact .nil _
  | cons c text ih =>
    obtain ⟨next, crosses, later⟩ := foldlM_cons_eq_some.1 ran
    obtain ⟨rfl, uncut⟩ := cross_eq_some_iff.1 crosses
    exact .cons uncut (ih later)

/-! ### Texts between cuts -/

/-- Texts that are cut nowhere, from one depth to another: behind all but the last the depth is
zero, as it has to be where a list is cut. -/
inductive Cut : Nat → List Text → Nat → Prop where
  | one {depth last : Nat} {text : Text} (ran : text.foldlM cross depth = some last) :
      Cut depth [text] last
  | more {depth last : Nat} {text : Text} {texts : List Text}
      (ran : text.foldlM cross depth = some 0) (others : Cut 0 texts last) :
      Cut depth (text :: texts) last

variable {texts : List Text}

/-- One character more in front of the first text. -/
theorem Cut.cons_head (cut : Cut next (text :: texts) last) (crosses : cross depth c = some next) :
    Cut depth ((c :: text) :: texts) last := by
  cases cut with
  | one ran => exact .one (foldlM_cons_eq_some.2 ⟨next, crosses, ran⟩)
  | more ran others => exact .more (foldlM_cons_eq_some.2 ⟨next, crosses, ran⟩) others

/-- The segments of a text lead from its first depth to its last. -/
theorem cut_segmentsFrom (depth : Nat) (text : Text) :
    Cut depth (segmentsFrom depth text) (text.foldl depthAfter depth) := by
  induction text generalizing depth with
  | nil => exact .one rfl
  | cons c text ih =>
    rw [segmentsFrom, List.foldl_cons]
    split
    · next comma =>
      simp only [Bool.and_eq_true, decide_eq_true_eq] at comma
      obtain ⟨rfl, rfl⟩ := comma
      exact .more rfl (ih 0)
    · next uncut =>
      have crosses : cross depth c = some (depthAfter depth c) := if_neg uncut
      have later := ih (depthAfter depth c)
      split
      · next none => exact absurd none (segmentsFrom_ne_nil _ _)
      · next segment segments found =>
        rw [found] at later
        exact later.cons_head crosses

theorem Cut.ne_nil (cut : Cut depth texts last) : texts ≠ [] := by
  cases cut <;> exact List.cons_ne_nil _ _

/-- Each text starts at depth zero if the first one does. -/
theorem Cut.exists_run (cut : Cut depth texts last) (top : depth = 0) :
    ∀ t ∈ texts, ∃ behind, t.foldlM cross 0 = some behind := by
  induction cut with
  | one ran =>
    subst top
    exact List.forall_mem_singleton.2 ⟨_, ran⟩
  | more ran others ih =>
    subst top
    exact List.forall_mem_cons.2 ⟨⟨_, ran⟩, ih rfl⟩

/-- Without the blanks around them and without the empty ones, the texts are still between cuts. -/
theorem Cut.parts (cut : Cut depth texts last) :
    (texts.map Text.trim).filter (· ≠ []) = [] ∨
      ∃ behind, Cut depth ((texts.map Text.trim).filter (· ≠ [])) behind := by
  induction cut with
  | @one depth last text ran =>
    by_cases empty : Text.trim text = []
    · simp [empty]
    · refine .inr ⟨last, ?_⟩
      simpa [empty] using Cut.one (foldlM_trim cross_of_blank ran)
  | @more depth last text texts ran others ih =>
    rw [List.map_cons]
    by_cases empty : Text.trim text = []
    · -- Blanks alone do not change the depth, so the next text starts where this one does.
      have still := foldlM_blanks cross_of_blank ((Text.trim_eq_nil_iff text).1 empty) depth
      obtain rfl : depth = 0 := Option.some.inj (still.symm.trans ran)
      rwa [List.filter_cons_of_neg (by simp [empty])]
    · have trimmed := foldlM_trim cross_of_blank ran
      rw [List.filter_cons_of_pos (by simp [empty])]
      rcases ih with none | ⟨behind, later⟩
      · rw [none]
        exact .inr ⟨0, .one trimmed⟩
      · exact .inr ⟨behind, .more trimmed later⟩

/-! ### Lists joined by commas -/

/-- A blank in front of a list goes with those of its first segment. -/
theorem map_trim_segmentsFrom_space (text : Text) :
    (segmentsFrom 0 (' ' :: text)).map Text.trim = (segmentsFrom 0 text).map Text.trim := by
  have spans : Spans 0 0 [' '] := spans_of_cross rfl
  obtain ⟨segment, segments, found⟩ := List.exists_cons_of_ne_nil (segmentsFrom_ne_nil 0 text)
  have whole := spans text
  rw [List.singleton_append, found] at whole
  rw [whole, found, List.map_cons,
    ← Text.trim_cons_blank (by decide : Text.isBlank ' ' = true) segment]
  rfl

/-- Texts between cuts that are joined by commas are the segments again, up to blanks. -/
theorem Cut.map_trim_segmentsFrom (cut : Cut depth texts last) :
    (segmentsFrom depth (Text.joinWith ", ".toList texts)).map Text.trim = texts.map Text.trim := by
  induction cut with
  | one ran => rw [Text.joinWith, (spans_of_cross ran).segmentsFrom_eq]
  | @more depth last text texts ran others ih =>
    have joined : Text.joinWith ", ".toList (text :: texts) =
        text ++ ',' :: ' ' :: Text.joinWith ", ".toList texts := by
      rw [joinWith_cons others.ne_nil, List.append_assoc]
      rfl
    rw [joined, (spans_of_cross ran).segmentsFrom_comma, List.map_cons, map_trim_segmentsFrom_space,
      ih, List.map_cons]

/-- Behind a text that leads to depth zero, a comma cuts. -/
theorem segmentsFrom_append_comma (level : text.foldl depthAfter depth = 0) (more : Text) :
    segmentsFrom depth (text ++ ',' :: more) = segmentsFrom depth text ++ segmentsFrom 0 more := by
  induction text generalizing depth with
  | nil =>
    obtain rfl : depth = 0 := level
    rfl
  | cons c text ih =>
    rw [List.cons_append, segmentsFrom, segmentsFrom]
    split
    · next comma =>
      simp only [Bool.and_eq_true, decide_eq_true_eq] at comma
      obtain ⟨rfl, rfl⟩ := comma
      have onward : text.foldl depthAfter 0 = 0 := level
      rw [ih onward, List.cons_append]
    · rw [ih level]
      obtain ⟨segment, segments, found⟩ :=
        List.exists_cons_of_ne_nil (segmentsFrom_ne_nil (depthAfter depth c) text)
      rw [found]
      rfl

/-! ### Parts -/

theorem of_mem_split {part : Text} (member : part ∈ split text) : part ≠ [] ∧ part.IsTrimmed := by
  obtain ⟨trimmed, filled⟩ := List.mem_filter.1 member
  obtain ⟨segment, -, rfl⟩ := List.mem_map.1 trimmed
  exact ⟨of_decide_eq_true filled, Text.isTrimmed_trim segment⟩

theorem cut_split (text : Text) : split text = [] ∨ ∃ behind, Cut 0 (split text) behind :=
  (cut_segmentsFrom 0 text).parts

/-- A text whose segments are trimmed texts with blanks around them has these for its parts. -/
theorem split_eq_of_map_trim {parts : List Text}
    (trimmed : ∀ part ∈ parts, part ≠ [] ∧ part.IsTrimmed)
    (segments : (segmentsFrom 0 text).map Text.trim = parts.map Text.trim) :
    split text = parts := by
  have same : parts.map Text.trim = parts.map id :=
    List.map_congr_left fun part member => Text.trim_of_isTrimmed (trimmed part member).2
  rw [split, segments, same, List.map_id, List.filter_eq_self]
  intro part member
  exact decide_eq_true (trimmed part member).1

/-- A part of a list is its own only part. -/
theorem split_part {part : Text} (member : part ∈ split text) : split part = [part] := by
  rcases cut_split text with none | ⟨behind, cut⟩
  · rw [none] at member
    cases member
  · obtain ⟨last, ran⟩ := cut.exists_run rfl part member
    refine split_eq_of_map_trim (List.forall_mem_singleton.2 (of_mem_split member)) ?_
    rw [(spans_of_cross ran).segmentsFrom_eq]

/-- The parts joined by commas are split in the same places again. -/
theorem split_joinWith_split (text : Text) :
    split (Text.joinWith ", ".toList (split text)) = split text := by
  rcases cut_split text with none | ⟨behind, cut⟩
  · rw [none]
    rfl
  · exact split_eq_of_map_trim (fun part member => of_mem_split member) cut.map_trim_segmentsFrom

theorem split_append_comma (level : endDepth text = 0) (more : Text) :
    split (text ++ ',' :: more) = split text ++ split more := by
  rw [split, segmentsFrom_append_comma level, List.map_append, List.filter_append]
  rfl

/-- Every part of a list is a trimmed text that is not empty and is its own only part; the parts
joined by commas have the same parts; and a list behind a list that leaves no bracket open adds its
own parts. -/
theorem split_canonical (text : Text) :
    (∀ part ∈ split text, part ≠ [] ∧ part.IsTrimmed ∧ split part = [part]) ∧
      split (Text.joinWith ", ".toList (split text)) = split text ∧
      ∀ more, endDepth text = 0 → split (text ++ ',' :: more) = split text ++ split more := by
  refine ⟨?_, split_joinWith_split text, fun more level => split_append_comma level more⟩
  intro part member
  obtain ⟨filled, trimmed⟩ := of_mem_split member
  exact ⟨filled, trimmed, split_part member⟩

/-- A list with an empty segment and a bracket that closes nothing, and one behind it that leaves a
bracket open. -/
theorem split_canonical_unclosed :
    endDepth ") a , ,[b,c]".toList = 0 ∧
      split ") a , ,[b,c]".toList = [") a".toList, "[b,c]".toList] ∧
      split ") a , ,[b,c], d,:is(e, f".toList =
        [") a".toList, "[b,c]".toList, "d".toList, ":is(e, f".toList] ∧
      split "[b,c]".toList = ["[b,c]".toList] := by
  have parts : split ") a , ,[b,c]".toList = [") a".toList, "[b,c]".toList] := by decide
  have others : split " d,:is(e, f".toList = ["d".toList, ":is(e, f".toList] := by decide
  have level : endDepth ") a , ,[b,c]".toList = 0 := by decide
  obtain ⟨each, -, behind⟩ := split_canonical ") a , ,[b,c]".toList
  have whole := behind " d,:is(e, f".toList level
  rw [parts, others] at whole
  exact ⟨level, parts, whole, (each "[b,c]".toList (by rw [parts]; simp)).2.2⟩

end StyleScore.Selector
