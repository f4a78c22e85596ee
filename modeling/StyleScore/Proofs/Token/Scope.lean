import StyleScore.Proofs.Token.Stop
import StyleScore.Text.Blank

/-!
Plain texts of selectors, character by character: names, signs and blanks of ASCII, and attribute
tests in square brackets, which may hold strings. A `Scope` says what is open at a place, and a text
is plain when nothing is open at its end. Reading lexemes that are no brackets and no strings keeps
the scope (`run_of_uses`), and a string that opens also closes (`exists_quoted`).
-/
namespace StyleScore.Scan

/-- What is open at a place in a text: nothing, an attribute test, or a string in one. -/
inductive Scope where
  | top
  | test
  | quoted (quote : Char)
  deriving DecidableEq, Repr

namespace Scope

/-- The blanks between selectors, with all line ends. -/
def isGap (c : Char) : Bool := c = ' ' || c = '\t' || c = '\n' || c = '\r' || c = '\x0c'

/-- The characters of names, signs and blanks. -/
def isPlain (c : Char) : Bool := c.isAlphanum || "-_.#=~|^$*:>+,".toList.contains c || isGap c

/-- What may stand in a string: no brackets, backslashes, ampersands or line ends. -/
def isQuotable (c : Char) : Bool := !"()[]&\\\n\r\x0c\x00".toList.contains c

/-- The scope after one more character. Outside attribute tests, commas are allowed in lists
only. -/
def step (inList : Bool) (scope : Scope) (c : Char) : Option Scope :=
  match scope with
  | top =>
    if c = '[' then some test
    else if c = ',' && !inList then none
    else if isPlain c then some top
    else none
  | test =>
    if c = ']' then some top
    else if c = '"' || c = '\'' then some (quoted c)
    else if isPlain c then some test
    else none
  | quoted quote =>
    if !isQuotable c then none
    else if c = quote then some test
    else some (quoted quote)

/-- The scope after a text. -/
def run (inList : Bool) : Scope → Text → Option Scope
  | scope, [] => some scope
  | scope, c :: rest => (step inList scope c).bind fun next => run inList next rest

/-- A list of plain selectors. -/
def IsPlainList (text : Text) : Prop := run true top text = some top

/-- A plain selector. -/
def IsPlainItem (text : Text) : Prop := run false top text = some top

instance (text : Text) : Decidable (IsPlainList text) := inferInstanceAs (Decidable (_ = _))

theorem isBlank_of_isGap {c : Char} (gap : isGap c = true) : Text.isBlank c = true := by
  simp only [isGap, Bool.or_eq_true, decide_eq_true_eq] at gap
  rcases gap with (((rfl | rfl) | rfl) | rfl) | rfl <;> rfl

theorem isGap_of_black {c : Char} (black : Text.isBlank c = false) : isGap c = false := by
  cases gap : isGap c with
  | false => rfl
  | true => cases black.symm.trans (isBlank_of_isGap gap)

theorem run_append (inList : Bool) (scope : Scope) (text more : Text) :
    run inList scope (text ++ more) =
      (run inList scope text).bind fun next => run inList next more := by
  induction text generalizing scope with
  | nil => rfl
  | cons c rest ih =>
    rw [List.cons_append, run, run]
    cases step inList scope c with
    | none => rfl
    | some next => exact ih next

theorem run_cons {inList : Bool} {scope last : Scope} {c : Char} {rest : Text}
    (ran : run inList scope (c :: rest) = some last) :
    ∃ next, step inList scope c = some next ∧ run inList next rest = some last :=
  Option.bind_eq_some_iff.1 ran

/-- No string is open. -/
def IsBare : Scope → Prop
  | quoted _ => False
  | _ => True

/-- What one character can do to the scope. -/
inductive Moves (inList : Bool) : Scope → Char → Scope → Prop where
  | opens : Moves inList top '[' test
  | closes : Moves inList test ']' top
  | quotes {quote : Char} (mark : quote ∈ ['"', '\'']) : Moves inList test quote (quoted quote)
  | stays {scope : Scope} {c : Char} (bare : scope.IsBare) (plain : isPlain c = true)
      (listed : scope = top → c = ',' → inList = true) : Moves inList scope c scope
  | inside {quote c : Char} (quotable : isQuotable c = true) (other : c ≠ quote) :
      Moves inList (quoted quote) c (quoted quote)
  | unquotes {quote : Char} (quotable : isQuotable quote = true) :
      Moves inList (quoted quote) quote test

theorem moves_of_step {inList : Bool} {scope next : Scope} {c : Char}
    (stepped : step inList scope c = some next) :
    Moves inList scope c next := by
  cases scope with
  | top =>
    simp only [step] at stepped
    split at stepped
    · next opening =>
      cases stepped
      exact opening ▸ .opens
    split at stepped
    · cases stepped
    next unlisted =>
    split at stepped
    · next plain =>
      cases stepped
      exact .stays trivial plain fun _ comma => by simpa [comma] using unlisted
    · cases stepped
  | test =>
    simp only [step] at stepped
    split at stepped
    · next closing =>
      cases stepped
      exact closing ▸ .closes
    split at stepped
    · next mark =>
      cases stepped
      exact .quotes (by simpa using mark)
    split at stepped
    · next plain =>
      cases stepped
      exact .stays trivial plain fun atTop => by cases atTop
    · cases stepped
  | quoted quote =>
    simp only [step] at stepped
    split at stepped
    · cases stepped
    next own =>
    have quotable : isQuotable c = true := by simpa using own
    split at stepped
    · next same =>
      cases stepped
      subst same
      exact .unquotes quotable
    · next other =>
      cases stepped
      exact .inside quotable other

/-- Outside strings only brackets and quotes change the scope. -/
theorem step_of_plain {inList : Bool} {scope next : Scope} {c : Char} (bare : scope.IsBare)
    (plain : c ∉ ['[', ']', '"', '\'']) (stepped : step inList scope c = some next) :
    next = scope ∧ isPlain c = true := by
  cases moves_of_step stepped with
  | opens => exact absurd (by decide) plain
  | closes => exact absurd (by decide) plain
  | quotes mark => exact absurd (List.mem_cons_of_mem _ (List.mem_cons_of_mem _ mark)) plain
  | stays _ own _ => exact ⟨rfl, own⟩
  | inside _ _ => cases bare
  | unquotes _ => cases bare

/-- Using up names, signs and blanks leaves the scope as it is. -/
theorem run_of_uses {inList : Bool} {scope last : Scope} {text left : Text} (bare : scope.IsBare)
    (uses : Uses text left) (ran : run inList scope text = some last) :
    run inList scope left = some last := by
  obtain ⟨used, rfl, plain⟩ := uses
  induction used with
  | nil => exact ran
  | cons c used ih =>
    obtain ⟨next, stepped, ran⟩ := run_cons ran
    rw [(step_of_plain bare (plain c List.mem_cons_self) stepped).1] at ran
    exact ih (fun d member => plain d (List.mem_cons_of_mem c member)) ran

/-- Some characters are allowed nowhere. -/
theorem allowed_of_step {inList : Bool} {scope next : Scope} {c : Char}
    (stepped : step inList scope c = some next) : c ∉ ['\\', '(', ')', '&', '\x00'] := by
  intro special
  have unplain : ∀ d ∈ ['\\', '(', ')', '&', '\x00'], isPlain d = false ∧ isQuotable d = false ∧
      d ∉ ['"', '\''] := by
    decide
  obtain ⟨plain, quotable, mark⟩ := unplain c special
  cases moves_of_step stepped with
  | opens => exact absurd special (by decide)
  | closes => exact absurd special (by decide)
  | quotes own => exact mark own
  | stays _ own _ => cases plain.symm.trans own
  | inside own _ => cases quotable.symm.trans own
  | unquotes own => cases quotable.symm.trans own

/-- No escape starts and no round bracket opens anywhere, also not in a string. -/
theorem not_mem_of_run {inList : Bool} {scope last : Scope} {text : Text}
    (ran : run inList scope text = some last) : ∀ c ∈ text, c ∉ ['\\', '(', ')', '&', '\x00'] := by
  induction text generalizing scope with
  | nil => simp
  | cons c rest ih =>
    obtain ⟨next, stepped, ran⟩ := run_cons ran
    exact List.forall_mem_cons.2 ⟨allowed_of_step stepped, ih ran⟩

/-- A string that is open is closed by its quote, which brings back the attribute test around it. -/
theorem exists_quoted {inList : Bool} {quote : Char} {text : Text}
    (ran : run inList (quoted quote) text = some top) :
    ∃ value left, text = value ++ quote :: left ∧ (∀ c ∈ value, c ≠ quote ∧ c ≠ '\\' ∧ c ≠ '\n') ∧
      run inList test left = some top := by
  induction text with
  | nil => cases ran
  | cons c rest ih =>
    obtain ⟨next, stepped, ran⟩ := run_cons ran
    cases moves_of_step stepped with
    | stays bare _ _ => cases bare
    | unquotes _ => exact ⟨[], rest, rfl, by simp, ran⟩
    | inside quotable other =>
      obtain ⟨value, left, rfl, fine, rest⟩ := ih ran
      refine ⟨c :: value, left, rfl, ?_, rest⟩
      have plain : c ≠ '\\' ∧ c ≠ '\n' := by
        constructor <;> (rintro rfl; cases quotable)
      exact List.forall_mem_cons.2 ⟨⟨other, plain⟩, fine⟩

/-- The next character is plain, a bracket or a quote. -/
theorem plain_of_head {inList : Bool} {scope last : Scope} {text : Text} (bare : scope.IsBare)
    (ran : run inList scope text = some last) :
    ∀ c ∈ text.head?, c ∈ ['[', ']', '"', '\''] ∨ isPlain c = true := by
  intro c head
  cases text with
  | nil => cases head
  | cons d rest =>
    cases head
    obtain ⟨next, stepped, -⟩ := run_cons ran
    by_cases special : c ∈ ['[', ']', '"', '\'']
    · exact .inl special
    · exact .inr (step_of_plain bare special stepped).2

/-- A line end of any kind counts as a line feed. -/
theorem step_lineEnd {inList : Bool} {scope next : Scope} {c : Char}
    (lineEnd : c ∈ ['\r', '\x0c', '\n']) (stepped : step inList scope c = some next) :
    step inList scope '\n' = some next ∧ next = scope := by
  simp only [List.mem_cons, List.not_mem_nil, or_false] at lineEnd
  rcases lineEnd with rfl | rfl | rfl <;> cases scope <;>
    simp_all [step, isPlain, isGap, isQuotable]

/-- The scope of a text is that of the text as it is scanned. -/
theorem run_normalise {inList : Bool} {scope last : Scope} {text : Text}
    (ran : run inList scope text = some last) : run inList scope (normalise text) = some last := by
  fun_induction normalise text generalizing scope with
  | case1 => exact ran
  | case2 rest ih =>
    obtain ⟨_, returned, ranOn⟩ := run_cons ran
    obtain ⟨feed, rfl⟩ := step_lineEnd (by decide) returned
    obtain ⟨_, fed, ranRest⟩ := run_cons ranOn
    obtain ⟨-, rfl⟩ := step_lineEnd (by decide) fed
    rw [run, feed]
    exact ih ranRest
  | case3 c rest _ ih =>
    obtain ⟨next, stepped, ran⟩ := run_cons ran
    have scanned : step inList scope
        (if c = '\x00' then '�' else if c = '\r' || c = '\x0c' then '\n' else c) = some next := by
      have present : c ≠ '\x00' := fun null => allowed_of_step stepped (by simp [null])
      rw [if_neg present]
      split
      · next lineEnd =>
        exact (step_lineEnd (by simp at lineEnd; simp [or_assoc.symm, lineEnd]) stepped).1
      · exact stepped
    rw [run, scanned]
    exact ih ran

end Scope

/-- Texts are scanned side by side unless a line end of two characters is cut. -/
theorem normalise_append {text more : Text}
    (apart : text.getLast? = some '\r' → more.head? ≠ some '\n') :
    normalise (text ++ more) = normalise text ++ normalise more := by
  fun_induction normalise text with
  | case1 => rfl
  | case2 rest ih =>
    rw [List.cons_append, List.cons_append, normalise, ih]
    · rfl
    · intro last
      cases rest with
      | nil => cases last
      | cons d tail => exact apart (by simpa using last)
  | case3 c rest other ih =>
    have later : rest.getLast? = some '\r' → more.head? ≠ some '\n' := by
      intro last
      cases rest with
      | nil => cases last
      | cons e tail => exact apart (by simpa using last)
    rw [List.cons_append, normalise, ih later]
    · rfl
    · rintro tail rfl same
      cases rest with
      | nil => exact apart rfl (by rw [← List.nil_append more, same]; rfl)
      | cons e rest => exact other rest rfl (by rw [(List.cons.inj same).1])

theorem normalise_eq_nil {text : Text} : normalise text = [] ↔ text = [] := by
  fun_cases normalise text <;> simp

/-- A text that does not end in a blank is scanned up to the same character. -/
theorem getLast?_normalise {text : Text} (filled : ∀ c ∈ text.getLast?, Scope.isGap c = false) :
    ∀ c ∈ (normalise text).getLast?, isSpace c = false := by
  intro c last
  rcases List.eq_nil_or_concat text with rfl | ⟨init, z, rfl⟩
  · cases last
  · have own : Scope.isGap z = false := filled z (by simp)
    have noFeed : z ≠ '\n' := by rintro rfl; cases own
    have apart : init.getLast? = some '\r' → [z].head? ≠ some '\n' :=
      fun _ feed => noFeed (Option.some.inj feed)
    rw [List.concat_eq_append, normalise_append apart] at last
    simp only [normalise, List.getLast?_append, List.getLast?_singleton, Option.some_or,
      Option.mem_some] at last
    subst last
    simp only [Scope.isGap, Bool.or_eq_false_iff, decide_eq_false_iff_not] at own
    simp only [own, isSpace]
    split <;> simp [own]

/-- A text that does not start with a blank does not do so when it is scanned. -/
theorem head?_normalise {text : Text} (filled : ∀ c ∈ text.head?, Scope.isGap c = false) :
    ∀ c ∈ (normalise text).head?, isSpace c = false := by
  fun_cases normalise text with
  | case1 => nofun
  | case2 rest => cases filled '\r' rfl
  | case3 c rest =>
    rintro _ ⟨⟩
    have own := filled c rfl
    simp only [Scope.isGap, Bool.or_eq_false_iff, decide_eq_false_iff_not] at own
    simp only [own, isSpace]
    split <;> simp [own]

/-- Blanks are scanned as blanks. -/
theorem isSpace_normalise {gap : Text} (blank : ∀ c ∈ gap, Scope.isGap c = true) :
    ∀ c ∈ normalise gap, isSpace c = true := by
  fun_induction normalise gap with
  | case1 => nofun
  | case2 rest ih =>
    have others := (List.forall_mem_cons.1 (List.forall_mem_cons.1 blank).2).2
    exact List.forall_mem_cons.2 ⟨rfl, ih others⟩
  | case3 c rest _ ih =>
    obtain ⟨first, others⟩ := List.forall_mem_cons.1 blank
    refine List.forall_mem_cons.2 ⟨?_, ih others⟩
    simp only [Scope.isGap, Bool.or_eq_true, decide_eq_true_eq] at first
    rcases first with (((rfl | rfl) | rfl) | rfl) | rfl <;> rfl

end StyleScore.Scan
