import StyleScore.Proofs.Selector.Weighing
import StyleScore.Proofs.Token.Rescan
import StyleScore.Proofs.Token.Settled
import StyleScore.Selector.Score

/-!
The specificity of a tidied selector. It is that of the selector as it was written
(`specificity_tidy`) if the text is `Calm`: tidying changes white space only, and there in no place
where an escape, a string or the end of the text would read on.
-/
namespace StyleScore.Selector

open Scan (Scope Settled Tidied nextReach normalise)
open Text (isBlank)

/-! ### Calm texts -/

/-- The characters from `i` up to `j` are a run of blanks that tidying changes: two of them or more,
or some at an end of the text. -/
def ChangesRun (text : Text) (i j : Nat) : Prop :=
  ((text.take j).drop i).all isBlank ∧ !(text.take i).getLast?.any isBlank ∧
    !(text.drop j).head?.any isBlank ∧
    (i + 2 ≤ j ∨ i = 0 ∨ j = text.length)

instance (text : Text) (i j : Nat) : Decidable (ChangesRun text i j) :=
  inferInstanceAs (Decidable (_ ∧ _))

/-- The last lexeme is a blank directly behind a bar. -/
def endsInBar (lexemes : List (Position × Lexeme)) : Bool :=
  match lexemes.reverse with
  | (_, blank) :: (_, bar) :: _ => blank.isBlank && bar = .token (.literal ['|'])
  | _ => false

/-- No string is broken off at the end of a line. -/
def Unbroken (text : Text) : Prop := ∀ entry ∈ scan text, entry.2 ≠ .token (.fault .badString)

/-- A text that scanning takes alike before and after it is tidied. -/
structure Calm (text : Text) : Prop where
  /-- What changes is white space in style sheets, and no escape reaches it. -/
  runs : ∀ j ≤ text.length, ∀ i < j, ChangesRun text i j →
    ((text.take j).drop i).all Scope.isGap ∧ (text.take i).foldl nextReach 0 = 0
  /-- Where the end of a line changes, none breaks a string off. -/
  strings : ∀ j ≤ text.length, ∀ i < j, ChangesRun text i j →
    (∃ c ∈ (text.take j).drop i, c ∈ Scan.lineEnds) →
    Unbroken text
  /-- No bar waits for a name behind blanks that end the text. -/
  bar : endsInBar (scan text) = false
  /-- The one sign beyond ASCII whose small letter is one of ASCII is missing. -/
  kelvin : '\u212A' ∉ text

/-- What a calm text says about a run that stands between two parts of it. -/
theorem Calm.of_run {before run after : Text} (calm : Calm (before ++ (run ++ after)))
    (filled : run ≠ []) (blank : ∀ c ∈ run, isBlank c = true)
    (first : ∀ c ∈ before.getLast?, isBlank c = false) (last : ∀ c ∈ after.head?, isBlank c = false)
    (changed : 2 ≤ run.length ∨ before = [] ∨ after = []) :
    (∀ c ∈ run, Scope.isGap c = true) ∧ before.foldl nextReach 0 = 0 ∧
      ((∃ c ∈ run, c ∈ Scan.lineEnds) → Unbroken (before ++ (run ++ after))) := by
  have length := List.length_pos_iff.2 filled
  have middle : ((before ++ (run ++ after)).take (before.length + run.length)).drop before.length =
      run := by
    rw [← List.append_assoc, ← List.length_append, List.take_left, List.drop_left]
  have front : (before ++ (run ++ after)).take before.length = before := List.take_left
  have behind : (before ++ (run ++ after)).drop (before.length + run.length) = after := by
    rw [← List.append_assoc, ← List.length_append, List.drop_left]
  have changes : ChangesRun (before ++ (run ++ after)) before.length (before.length +
      run.length) := by
    have black {o : Option Char} (solid : ∀ c ∈ o, isBlank c = false) : (!o.any isBlank) =
        true := by
      cases o with
      | none => rfl
      | some c => rw [Option.any_some, solid c rfl, Bool.not_false]
    rw [ChangesRun, middle, front, behind]
    refine ⟨List.all_eq_true.2 blank, black first, black last, ?_⟩
    rcases changed with many | rfl | rfl
    · exact .inl (by omega)
    · exact .inr (.inl rfl)
    · exact .inr (.inr (by simp))
  obtain ⟨gaps, reach⟩ := calm.runs _ (by simp) _ (by omega) changes
  have strings := calm.strings _ (by simp) _ (by omega) changes
  rw [middle] at gaps strings
  rw [front] at reach
  exact ⟨List.all_eq_true.1 gaps, reach, strings⟩

theorem exists_run (text : Text) : ∃ run rest, text = run ++ rest ∧ (∀ c ∈ run, isBlank c = true) ∧
    ∀ c ∈ rest.head?, isBlank c = false := by
  refine ⟨text.takeWhile isBlank, text.dropWhile isBlank,
    List.takeWhile_append_dropWhile.symm, ?_, ?_⟩
  · exact Scan.all_takeWhile text
  · intro c first
    have fails := List.head?_dropWhile_not isBlank text
    rw [Option.mem_def.1 first] at fails
    exact fails

theorem foldl_nextReach_gaps {run : Text} (gaps : ∀ c ∈ run, Scope.isGap c = true) :
    run.foldl nextReach 0 = 0 := by
  apply Scan.Tidied.foldl_nextReach_plain
  rintro c member rfl
  cases gaps _ member

/-- A part of a calm text is settled if it starts with a character that is not blank or stands
behind one. -/
theorem Calm.settled {intact : Prop} {before s : Text} (calm : Calm (before ++ s))
    (strings : Unbroken (before ++ s) → intact)
    (apart : (∃ c ∈ before.getLast?, isBlank c = false) ∨ ∀ c ∈ s.head?, isBlank c = false) :
    Settled intact (before.foldl nextReach 0) s := by
  induction length : s.length using Nat.strongRecOn generalizing before s with
  | ind n ih =>
    cases s with
    | nil => exact .nil _
    | cons c s =>
      rw [List.length_cons] at length
      have further (apart : isBlank c = false ∨ ∀ d ∈ s.head?, isBlank d = false) :
          Settled intact (nextReach (before.foldl nextReach 0) c) s := by
        rw [← List.singleton_append, ← List.append_assoc] at calm strings
        have settled := ih s.length (by omega) calm strings (by simpa using apart) rfl
        rwa [List.foldl_append] at settled
      cases blank : isBlank c with
      | false => exact .solid blank (further (.inl blank))
      | true =>
        have first : ∀ d ∈ before.getLast?, isBlank d = false := by
          rcases apart with ⟨d, last, black⟩ | solid
          · intro e lastToo
            rwa [Option.mem_unique lastToo last]
          · cases (solid c rfl).symm.trans blank
        -- The whole run that starts here: at the end of the text, of one blank, or of more.
        obtain ⟨run, left, rfl, blanks, solid⟩ := exists_run s
        have all : ∀ d ∈ c :: run, isBlank d = true := List.forall_mem_cons.2 ⟨blank, blanks⟩
        have calm : Calm (before ++ (c :: run ++ left)) := calm
        cases left with
        | nil =>
          obtain ⟨gaps, zero, lines⟩ := calm.of_run nofun all first solid (.inr (.inr rfl))
          rw [List.append_nil, zero]
          exact .ends gaps (strings ∘ lines)
        | cons e left =>
          cases run with
          | nil => exact .lone blank (solid e rfl) (further (.inr solid))
          | cons d run =>
            obtain ⟨gaps, zero, lines⟩ := calm.of_run nofun all first solid (.inl (by simp))
            have whole : before ++ (c :: d :: run ++ e :: left) = (before ++ c :: d :: run) ++
                e :: left :=
              (List.append_assoc ..).symm
            have shorter : (e :: left).length < n := by
              rw [List.length_append] at length
              omega
            have settled := ih _ shorter (whole ▸ calm) (whole ▸ strings) (.inr solid) rfl
            rw [List.foldl_append, zero, foldl_nextReach_gaps gaps] at settled
            rw [zero]
            exact .gap gaps (strings ∘ lines) (solid e rfl) settled

/-- Behind the blanks at its start a calm text is scanned as the tidied one is. -/
theorem Calm.tidied {text : Text} (calm : Calm text) :
    ∃ lead rest, text = lead ++ rest ∧ (∀ c ∈ lead, Scope.isGap c = true) ∧
      (∀ c ∈ rest.head?, isBlank c = false) ∧
      Tidied (Unbroken text) 0 (normalise rest) (normalise (tidy text)) := by
  obtain ⟨lead, rest, rfl, blank, solid⟩ := exists_run text
  have gaps : ∀ c ∈ lead, Scope.isGap c = true := by
    cases lead with
    | nil => simp
    | cons c lead =>
      have calm : Calm ([] ++ (c :: lead ++ rest)) := calm
      exact (calm.of_run nofun blank nofun solid (.inr (.inl rfl))).1
  have settled := calm.settled id (.inr solid)
  rw [foldl_nextReach_gaps gaps] at settled
  obtain ⟨small, lowered, further⟩ := (Scan.lowered_lowerAfter calm.kelvin []).of_blanks blank
  have start : ∀ c ∈ small.head?, isBlank c = false := by
    cases rest with
    | nil =>
      cases further
      nofun
    | cons c rest =>
      obtain ⟨d, small, rfl, black⟩ := further.of_solid (solid c rfl)
      rintro _ ⟨⟩
      exact black
  have tidied : tidy (lead ++ rest) = Text.squeeze small := by
    rw [tidy, Text.lower, lowered, Text.trim_collapseBlanks blank start]
  rw [tidied]
  exact ⟨lead, rest, rfl, gaps, solid, Scan.tidied_squeeze settled further⟩

/-! ### Blanks in front -/

theorem scan_lead {lead rest : Text} (gaps : ∀ c ∈ lead, Scope.isGap c = true)
    (solid : ∀ c ∈ rest.head?, isBlank c = false) :
    ∃ front pos, scan (lead ++ rest) = front ++ Scan.scanFrom pos (normalise rest) ∧
      (front = [] ∨ ∃ blank, front = [(.start, .token (.blank blank))]) := by
  have apart : lead.getLast? = some '\r' → rest.head? ≠ some '\n' := by
    intro _ feed
    cases solid _ feed
  have start : ∀ c ∈ (normalise rest).head?, Scan.isSpace c = false :=
    Scan.head?_normalise fun c first => Scope.isGap_of_black (solid c first)
  have spaces := Scan.isSpace_normalise gaps
  rw [scan, Scan.normalise_append apart]
  generalize normalise lead = blanks at spaces ⊢
  cases blanks with
  | nil => exact ⟨[], .start, rfl, .inl rfl⟩
  | cons c more =>
    obtain ⟨space, others⟩ := List.forall_mem_cons.1 spaces
    rw [List.cons_append, Scan.scanFrom, Scan.scanOne_eq, if_pos space,
      List.dropWhile_append_of_pos others, Tidied.dropWhile_of_solid start]
    exact ⟨_, _, rfl, .inr ⟨_, rfl⟩⟩

theorem ofComponents_blank (position : Position) (blank : Text) (content : List Component) :
    ofComponents (.leaf position (.blank blank) :: content) = ofComponents content := by
  have same (rest : List Piece) :
      complex false (.plain (.leaf position (.blank blank)) :: rest) = complex false rest := rfl
  rw [ofComponents, ofComponents, pieces, list, list, same]

/-! ### The specificity -/

/-- Whether a text has a specificity is a matter of its lexemes. -/
theorem specificity_eq_ok_iff {text : Text} (filled : text ≠ []) (weight : Specificity) :
    specificity text = .ok weight ↔ overlongNumeral? (scan text) = none ∧
      ∃ selectors, ofComponents (Component.ofLexemes (scan text)) = .ok selectors ∧
        greatest selectors = weight := by
  rw [specificity, if_neg filled, parse]
  cases overlongNumeral? (scan text) with
  | some digits => simp [Except.map]
  | none =>
    cases ofComponents (Component.ofLexemes (scan text)) with
    | ok selectors => simp [Except.map]
    | error mistake => cases mistake <;> simp [Except.map]

theorem overlongNumeral?_eq {lexemes others : List (Position × Lexeme)}
    (alike : UpToEnd (fun entry other => entry.2.Alike other.2) (·.2.isBlank) (fun _ => false)
      lexemes others) :
    overlongNumeral? lexemes = overlongNumeral? others := by
  induction alike with
  | nil => rfl
  | @blank entry empty =>
    obtain ⟨position, lexeme⟩ := entry
    cases lexeme with
    | token token => cases token <;> first | rfl | cases empty
    | opening opener => rfl
    | closing bracket => rfl
  | @cons entry other _ _ alike _ _ ih =>
    obtain ⟨position, lexeme⟩ := entry
    obtain ⟨place, second⟩ := other
    unfold overlongNumeral? at ih ⊢
    rw [List.findSome?_cons, List.findSome?_cons, ih]
    cases alike with
    | token alike => simp only [alike.numeralLength?_eq]
    | opening alike => rfl
    | closing bracket => rfl

theorem endsInBar_concat (front : List (Position × Lexeme)) (bar blank : Position × Lexeme) :
    endsInBar (front ++ [bar, blank]) = (blank.2.isBlank && bar.2 = .token (.literal ['|'])) := by
  simp [endsInBar]

/-- A calm text and the tidied one are read alike. -/
theorem Calm.outcomesAlike {text : Text} (calm : Calm text) :
    overlongNumeral? (scan text) = overlongNumeral? (scan (tidy text)) ∧
      OutcomesAlike ListsAlike (ofComponents (Component.ofLexemes (scan text)))
        (ofComponents (Component.ofLexemes (scan (tidy text)))) := by
  obtain ⟨lead, rest, split, gaps, solid, tidied⟩ := calm.tidied
  obtain ⟨front, pos, scanned, lone⟩ := scan_lead gaps solid
  rw [← split] at scanned
  have strings : Unbroken text →
      ∀ entry ∈ Scan.scanFrom pos (normalise rest), entry.2 ≠ .token (.fault .badString) := by
    intro unbroken entry member
    apply unbroken entry
    rw [scanned]
    exact List.mem_append_right front member
  have alike := tidied.upToEnd_scanFrom pos .start strings
  have unbarred : ∀ before bar blank, Scan.scanFrom pos (normalise rest) = before ++ [bar, blank] →
      blank.2.isBlank = true → bar.2 ≠ .token (.literal ['|']) := by
    intro before bar blank ends empty barred
    have quiet := calm.bar
    rw [scanned, ends, ← List.append_assoc, endsInBar_concat, empty, decide_eq_true barred] at quiet
    cases quiet
  have numerals := overlongNumeral?_eq alike
  have outcomes := outcomesAlike_ofComponents (Component.allAlike_ofLexemes alike unbarred)
  rw [scanned]
  rcases lone with rfl | ⟨blank, rfl⟩
  · exact ⟨numerals, outcomes⟩
  · rw [List.singleton_append, Component.ofLexemes_token, ofComponents_blank]
    exact ⟨numerals, outcomes⟩

/-- An empty text has no selector. -/
theorem ofComponents_nil :
    ofComponents (Component.ofLexemes (scan [])) = .error (.broken .noCompound none) := by
  cbv

/-- Tidying a calm text that has a specificity keeps it. -/
theorem specificity_tidy {text : Text} {weight : Specificity} (filled : text ≠ [])
    (calm : Calm text) (accepted : specificity text = .ok weight) :
    specificity (tidy text) = .ok weight := by
  obtain ⟨numerals, outcomes⟩ := calm.outcomesAlike
  obtain ⟨short, selectors, read, weighed⟩ := (specificity_eq_ok_iff filled weight).1 accepted
  rw [read] at outcomes
  generalize readToo : ofComponents (Component.ofLexemes (scan (tidy text))) = outcome at outcomes
  cases outcomes with
  | @ok _ others alike =>
    have filledToo : tidy text ≠ [] := by
      intro empty
      rw [empty, ofComponents_nil] at readToo
      cases readToo
    refine (specificity_eq_ok_iff filledToo weight).2 ⟨numerals ▸ short, others, readToo, ?_⟩
    rw [← alike.greatest_eq, weighed]

/-- Capitals, blanks before the text, in a string and in a list over two lines, and a blank that
ends an escape. -/
theorem specificity_tidy_mixed :
    specificity " A[B=\"C  D\"]:Is( .\\45 F\n )".toList = .ok ⟨0, 2, 1⟩ ∧
      specificity (tidy " A[B=\"C  D\"]:Is( .\\45 F\n )".toList) = .ok ⟨0, 2, 1⟩ := by
  have accepted : specificity " A[B=\"C  D\"]:Is( .\\45 F\n )".toList = .ok ⟨0, 2, 1⟩ := by
    decide +kernel
  have strings : ((scan " A[B=\"C  D\"]:Is( .\\45 F\n )".toList).all fun entry =>
      entry.2 ≠ .token (.fault .badString)) = true := by decide +kernel
  have calm : Calm " A[B=\"C  D\"]:Is( .\\45 F\n )".toList := by
    refine ⟨by decide +kernel, fun _ _ _ _ _ _ entry member => ?_, by decide +kernel,
      by decide +kernel⟩
    exact of_decide_eq_true (List.all_eq_true.1 strings entry member)
  exact ⟨accepted, specificity_tidy (by decide) calm accepted⟩

/-! ### Texts that are not calm -/

/-- Where a text is not calm its specificity may change: a space that an escape would take with it
goes, a run of blanks that are part of a name becomes a space, a string that was broken off goes on,
the Kelvin sign becomes a letter of a name with a meaning, and a bar is left at the end of the
text. -/
theorem specificity_tidy_restless :
    (specificity ".\\41  b".toList = .ok ⟨0, 1, 1⟩ ∧
      specificity (tidy ".\\41  b".toList) = .ok ⟨0, 1, 0⟩) ∧
    (specificity "a\u00A0\u00A0b".toList = .ok ⟨0, 0, 1⟩ ∧
      specificity (tidy "a\u00A0\u00A0b".toList) = .ok ⟨0, 0, 2⟩) ∧
    (specificity ":foo(\"a\n\nb\")#c".toList = .ok ⟨0, 1, 0⟩ ∧
      specificity (tidy ":foo(\"a\n\nb\")#c".toList) = .ok ⟨1, 1, 0⟩) ∧
    (specificity ":is(::mar\u212Aer,#b)".toList = .ok ⟨0, 0, 0⟩ ∧
      specificity (tidy ":is(::mar\u212Aer,#b)".toList) = .ok ⟨1, 0, 0⟩) ∧
    (specificity ":is(| ".toList = .ok ⟨0, 0, 0⟩ ∧
      specificity (tidy ":is(| ".toList) = .error .missingAttribute) := by
  refine ⟨⟨?_, ?_⟩, ⟨?_, ?_⟩, ⟨?_, ?_⟩, ⟨?_, ?_⟩, ?_, ?_⟩ <;> decide +kernel

end StyleScore.Selector
