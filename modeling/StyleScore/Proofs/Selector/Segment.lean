import StyleScore.Proofs.Text.Trim
import StyleScore.Proofs.Token.Scope
import StyleScore.Selector.List

/-!
Where a list of selectors is cut. A text spans two depths when it is cut nowhere and leads from one
depth to the other (`Spans`). The segments of a plain list are plain selectors (`segments_of_run`),
and each is a trimmed text with blanks around it (`padded_of_plain`).
-/
namespace StyleScore.Selector

open Scan (Scope)

/-- The first segment, with a text before it. -/
def prepend (text : Text) : List Text → List Text
  | [] => [text]
  | segment :: segments => (text ++ segment) :: segments

/-- The text leads from one depth to another and no list is cut in it. -/
def Spans (depth last : Nat) (text : Text) : Prop :=
  ∀ rest, segmentsFrom depth (text ++ rest) = prepend text (segmentsFrom last rest)

theorem segmentsFrom_ne_nil (depth : Nat) (text : Text) : segmentsFrom depth text ≠ [] := by
  cases text with
  | nil => simp [segmentsFrom]
  | cons c rest =>
    rw [segmentsFrom]
    split
    · simp
    · split <;> simp

theorem Spans.nil (depth : Nat) : Spans depth depth [] := by
  intro rest
  obtain ⟨segment, segments, found⟩ := List.exists_cons_of_ne_nil (segmentsFrom_ne_nil depth rest)
  rw [List.nil_append, found]
  rfl

theorem Spans.append {first second third : Nat} {text more : Text} (spans : Spans first second text)
    (spansToo : Spans second third more) : Spans first third (text ++ more) := by
  intro rest
  obtain ⟨segment, segments, found⟩ := List.exists_cons_of_ne_nil (segmentsFrom_ne_nil third rest)
  rw [List.append_assoc, spans, spansToo, found]
  simp [prepend]

/-- One character, unless it is a comma outside all brackets. -/
theorem spans_char {depth : Nat} {c : Char} (uncut : c = ',' → 0 < depth) :
    Spans depth (depthAfter depth c) [c] := by
  intro rest
  have kept : ¬ (c = ',' && depth = 0) = true := by
    intro cut
    simp only [Bool.and_eq_true, decide_eq_true_eq] at cut
    have := uncut cut.1
    omega
  obtain ⟨segment, segments, found⟩ :=
    List.exists_cons_of_ne_nil (segmentsFrom_ne_nil (depthAfter depth c) rest)
  rw [List.singleton_append, segmentsFrom, if_neg kept, found]
  rfl

theorem Spans.cons {depth last : Nat} {c : Char} {text : Text} (uncut : c = ',' → 0 < depth)
    (spans : Spans (depthAfter depth c) last text) : Spans depth last (c :: text) :=
  (spans_char uncut).append spans

theorem depthAfter_of_plain {c : Char} (plain : c ∉ ['(', ')', '[', ']']) (depth : Nat) :
    depthAfter depth c = depth := by
  simp only [List.mem_cons, List.not_mem_nil, or_false, not_or] at plain
  simp [depthAfter, plain]

/-- A list is cut at a comma behind a text that is cut nowhere. -/
theorem Spans.segmentsFrom_comma {depth : Nat} {text : Text} (spans : Spans depth 0 text)
    (rest : Text) :
    segmentsFrom depth (text ++ ',' :: rest) = text :: segmentsFrom 0 rest := by
  rw [spans, segmentsFrom]
  simp [prepend]

theorem Spans.segmentsFrom_eq {depth last : Nat} {text : Text} (spans : Spans depth last text) :
    segmentsFrom depth text = [text] := by
  have whole := spans []
  rw [List.append_nil] at whole
  rw [whole]
  simp [segmentsFrom, prepend]

/-! ### Plain texts -/

/-- The depth that a scope has inside a text at some depth. -/
def depthOf (depth : Nat) : Scope → Nat
  | .top => depth
  | _ => depth + 1

/-- Only the brackets of a test change the depth. -/
theorem depthAfter_of_step {inList : Bool} {scope next : Scope} {c : Char} (depth : Nat)
    (stepped : Scope.step inList scope c = some next) :
    depthAfter (depthOf depth scope) c = depthOf depth next := by
  have even {p : Char → Bool} (brackets : ∀ d ∈ ['(', ')', '[', ']'], p d = false)
      (own : p c = true)
      (depth : Nat) : depthAfter depth c = depth := by
    apply depthAfter_of_plain
    intro bracket
    cases own.symm.trans (brackets c bracket)
  cases Scope.moves_of_step stepped with
  | opens => rfl
  | closes => rfl
  | quotes mark => exact even (p := (· ∈ ['"', '\''])) (by decide) (decide_eq_true mark) _
  | stays _ plain _ => exact even (by decide) plain _
  | inside quotable _ => exact even (by decide) quotable _
  | unquotes quotable => exact even (by decide) quotable _

/-- A comma that is not in a test is in a list. -/
theorem uncut_of_step {scope next : Scope} {c : Char} (depth : Nat)
    (stepped : Scope.step false scope c = some next) : c = ',' → 0 < depthOf depth scope := by
  rintro rfl
  cases scope with
  | top => cases stepped
  | test => exact Nat.succ_pos depth
  | quoted quote => exact Nat.succ_pos depth

/-- A plain selector is cut nowhere, at whatever depth it stands. -/
theorem spans_of_run {scope last : Scope} {text : Text} (depth : Nat)
    (ran : Scope.run false scope text = some last) :
    Spans (depthOf depth scope) (depthOf depth last) text := by
  induction text generalizing scope with
  | nil =>
    cases ran
    exact .nil _
  | cons c rest ih =>
    obtain ⟨next, stepped, ranRest⟩ := Scope.run_cons ran
    refine .cons (uncut_of_step depth stepped) ?_
    rw [depthAfter_of_step depth stepped]
    exact ih ranRest

/-- Outside lists the same characters are allowed, except commas. -/
theorem step_item {scope next : Scope} {c : Char} (stepped : Scope.step true scope c = some next)
    (uncut : scope = .top → c ≠ ',') : Scope.step false scope c = some next := by
  cases scope with
  | top => simpa [Scope.step, uncut rfl] using stepped
  | test => exact stepped
  | quoted quote => exact stepped

/-- The segments of a plain list are plain selectors. -/
theorem segments_of_run {scope : Scope} {text : Text}
    (ran : Scope.run true scope text = some .top) :
    ∃ segment segments, segmentsFrom (depthOf 0 scope) text = segment :: segments ∧
      Scope.run false scope segment = some .top ∧ ∀ s ∈ segments, Scope.IsPlainItem s := by
  induction text generalizing scope with
  | nil =>
    cases ran
    exact ⟨[], [], rfl, rfl, nofun⟩
  | cons c rest ih =>
    obtain ⟨next, stepped, ranRest⟩ := Scope.run_cons ran
    obtain ⟨segment, segments, found, item, others⟩ := ih ranRest
    by_cases cut : c = ',' ∧ scope = .top
    · obtain ⟨rfl, rfl⟩ := cut
      cases stepped
      refine ⟨[], segment :: segments, ?_, rfl, List.forall_mem_cons.2 ⟨item, others⟩⟩
      rw [← found]
      rfl
    · have single := step_item stepped fun top comma => cut ⟨comma, top⟩
      refine ⟨c :: segment, segments, ?_, ?_, others⟩
      · have one := spans_char (uncut_of_step 0 single) rest
        rw [depthAfter_of_step 0 stepped, found] at one
        exact one
      · rw [Scope.run, single]
        exact item

theorem joinWith_cons {sep t : Text} {ts : List Text} (filled : ts ≠ []) :
    Text.joinWith sep (t :: ts) = t ++ sep ++ Text.joinWith sep ts := by
  cases ts with
  | nil => exact absurd rfl filled
  | cons u us => rfl

/-- The segments joined by commas are the text. -/
theorem joinWith_segmentsFrom (depth : Nat) (text : Text) :
    Text.joinWith [','] (segmentsFrom depth text) = text := by
  induction text generalizing depth with
  | nil => rfl
  | cons c rest ih =>
    rw [segmentsFrom]
    split
    · next cut =>
      simp only [Bool.and_eq_true, decide_eq_true_eq] at cut
      rw [joinWith_cons (segmentsFrom_ne_nil 0 rest), ih 0, cut.1]
      rfl
    · have joined := ih (depthAfter depth c)
      cases found : segmentsFrom (depthAfter depth c) rest with
      | nil => exact absurd found (segmentsFrom_ne_nil _ _)
      | cons segment segments =>
        rw [found] at joined
        cases segments with
        | nil => exact congrArg (c :: ·) joined
        | cons next others => exact congrArg (c :: ·) joined

/-! ### Blanks around a selector -/

theorem isGap_of_isBlank {c : Char} (own : Scope.isPlain c = true) (blank : Text.isBlank c = true) :
    Scope.isGap c = true := by
  simp only [Scope.isPlain, Bool.or_eq_true] at own
  rcases own with (alphanum | sign) | gap
  · delta Char.isAlphanum Char.isAlpha Char.isUpper Char.isLower Char.isDigit at alphanum
    simp only [Bool.or_eq_true, Bool.and_eq_true, decide_eq_true_eq, UInt32.le_iff_toNat_le,
      Char.reduceVal, UInt32.reduceToNat, Char.toNat_val] at alphanum
    simp only [Text.isBlank, Bool.or_eq_true, Bool.and_eq_true, decide_eq_true_eq] at blank
    omega
  · have none : ∀ d ∈ "-_.#=~|^$*:>+,".toList, Text.isBlank d = false := by decide
    cases blank.symm.trans (none c (by simpa using sign))
  · exact gap

/-- Blanks before a text at the top are blanks between selectors. -/
theorem run_of_leading {before rest : Text} {last : Scope}
    (ran : Scope.run false .top (before ++ rest) = some last)
    (blank : ∀ c ∈ before, Text.isBlank c = true) :
    (∀ c ∈ before, Scope.isGap c = true) ∧ Scope.run false .top rest = some last := by
  induction before with
  | nil => exact ⟨nofun, ran⟩
  | cons c before ih =>
    obtain ⟨first, others⟩ := List.forall_mem_cons.1 blank
    obtain ⟨next, stepped, ranRest⟩ := Scope.run_cons ran
    have bare : Scope.IsBare .top := trivial
    obtain ⟨rfl, own⟩ := Scope.step_of_plain bare (Scan.not_mem_of_class (by decide) first) stepped
    obtain ⟨gaps, ranOn⟩ := ih ranRest others
    exact ⟨List.forall_mem_cons.2 ⟨isGap_of_isBlank own first, gaps⟩, ranOn⟩

/-- Blanks that end at the top also start there. -/
theorem run_of_trailing {after : Text} {scope : Scope}
    (ran : Scope.run false scope after = some .top) (blank : ∀ c ∈ after, Text.isBlank c = true) :
    scope = .top ∧ ∀ c ∈ after, Scope.isGap c = true := by
  induction after generalizing scope with
  | nil =>
    cases ran
    exact ⟨rfl, nofun⟩
  | cons c after ih =>
    obtain ⟨first, others⟩ := List.forall_mem_cons.1 blank
    obtain ⟨next, stepped, ranRest⟩ := Scope.run_cons ran
    obtain ⟨rfl, gaps⟩ := ih ranRest others
    cases Scope.moves_of_step stepped with
    | closes => exact absurd first (by decide)
    | stays _ own _ => exact ⟨rfl, List.forall_mem_cons.2 ⟨isGap_of_isBlank own first, gaps⟩⟩

/-- The text is `core` with blanks around it; an empty one has all of them before it. -/
def Padded (text core : Text) : Prop :=
  ∃ before after, text = before ++ core ++ after ∧ (∀ c ∈ before, Scope.isGap c = true) ∧
    (∀ c ∈ after, Scope.isGap c = true) ∧ (core = [] → after = [])

/-- A plain selector is a trimmed one with blanks around it. -/
theorem padded_of_plain {text : Text} (item : Scope.IsPlainItem text) :
    ∃ core, Padded text core ∧ Scope.IsPlainItem core ∧ core.IsTrimmed := by
  have start := Text.trimStart_append_eq text
  have tail := Text.trimEnd_append_eq (Text.trimStart text)
  have ran : Scope.run false .top (text.takeWhile Text.isBlank ++ Text.trimStart text) =
      some .top := by
    rw [start]
    exact item
  obtain ⟨gaps, ranStart⟩ := run_of_leading ran fun c => List.mem_takeWhile_imp
  rw [← tail, Scope.run_append] at ranStart
  obtain ⟨scope, ranCore, ranEnd⟩ := Option.bind_eq_some_iff.1 ranStart
  obtain ⟨rfl, gapsToo⟩ := run_of_trailing ranEnd fun c member =>
    List.mem_takeWhile_imp (List.mem_reverse.1 member)
  refine ⟨Text.trim text, ⟨_, _, ?_, gaps, gapsToo, fun empty => ?_⟩, ranCore,
    Text.isTrimmed_trim text⟩
  · rw [List.append_assoc, Text.trim, tail, start]
  · have none : Text.trimStart text = [] :=
      List.dropWhile_eq_nil_iff.2 ((Text.trim_eq_nil_iff text).1 empty)
    rw [none]
    rfl

/-- Cutting off the blanks brings back the selector. -/
theorem Padded.trim_eq {text core : Text} (padded : Padded text core) (trimmed : core.IsTrimmed) :
    Text.trim text = core := by
  obtain ⟨before, after, rfl, gaps, gapsToo, empty⟩ := padded
  have start : Text.trimStart (before ++ core ++ after) = core ++ after := by
    rw [Text.trimStart, List.append_assoc, List.dropWhile_append_of_pos fun c member =>
      Scope.isBlank_of_isGap (gaps c member)]
    cases core with
    | nil => rw [empty rfl]; rfl
    | cons c rest => exact List.dropWhile_cons_of_neg (by simp [trimmed.1 c rfl])
  rw [Text.trim, start, Text.trimEnd, List.reverse_append,
    List.dropWhile_append_of_pos fun c member =>
    Scope.isBlank_of_isGap (gapsToo c (List.mem_reverse.1 member))]
  have kept : core.reverse.dropWhile Text.isBlank = core.reverse := by
    cases last : core.reverse with
    | nil => rfl
    | cons c rest =>
      have filled : Text.isBlank c = false := trimmed.2 c (by rw [← List.head?_reverse, last]; rfl)
      exact List.dropWhile_cons_of_neg (by simp [filled])
  rw [kept, List.reverse_reverse]

end StyleScore.Selector
