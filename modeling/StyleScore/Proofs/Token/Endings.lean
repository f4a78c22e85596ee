import StyleScore.Proofs.Token.Seam
import StyleScore.Proofs.Token.Tidied

/-!
Where strings, urls, comments, numbers and ranges end in a tidied text: at the same places as in the
text that was tidied. A string that a line feed breaks off is left out if the line feed goes, for
then it would go on.
-/
namespace StyleScore.Scan

theorem nextReach_zero {c : Char} (plain : c ≠ '\\') : nextReach 0 c = 0 := by
  simp [nextReach, plain]

namespace Tidied

variable {intact : Prop} {reach : Nat} {s t : Text} {c : Char}

/-- A backslash that starts no escape stands before a line feed, so it reaches nothing. -/
theorem of_startsEscape (rest : Tidied intact (nextReach 0 c) s t)
    (plain : startsEscape (c :: s) = false) :
    Tidied intact 0 s t := by
  by_cases slash : c = '\\'
  · subst slash
    have line : s.head? = some '\n' := by simpa [startsEscape] using plain
    exact rest.reset (by decide) (by simp [line])
  · exact nextReach_zero slash ▸ rest

/-! ### Strings -/

section Strings

variable {quote : Char}

theorem takeString_nil : (Scan.takeString quote []).2 = (.endOfText, []) := by
  rw [Scan.takeString.eq_def]

theorem takeString_quote (rest : Text) :
    (Scan.takeString quote (quote :: rest)).2 = (.closed, rest) := by
  rw [Scan.takeString.eq_def]
  simp only [if_pos]

theorem takeString_cons (other : c ≠ quote) (plain : c ≠ '\\') (line : c ≠ '\n') (rest : Text) :
    (Scan.takeString quote (c :: rest)).2 = (Scan.takeString quote rest).2 := by
  rw [Scan.takeString.eq_def]
  simp only [if_neg other, if_neg plain, if_neg line]

theorem takeString_line (other : '\n' ≠ quote) (rest : Text) :
    (Scan.takeString quote ('\n' :: rest)).2 = (.broken, '\n' :: rest) := by
  rw [Scan.takeString.eq_def]
  simp [other]

/-- After a backslash the end of the text and a line feed go as any escape does. -/
theorem takeString_escape (other : '\\' ≠ quote) (rest : Text) :
    (Scan.takeString quote ('\\' :: rest)).2 =
      (Scan.takeString quote (Scan.takeEscape rest).2).2 := by
  rw [Scan.takeString.eq_def]
  simp only [if_neg other, if_true]
  split
  · exact takeString_nil.symm
  · rfl
  · rfl

/-- White space in a string goes with it, or there is a line feed in it that breaks the string
off. -/
theorem takeString_run (quoted : quote ∈ ['"', '\'']) {run : Text}
    (spaces : ∀ d ∈ run, isSpace d = true) :
    '\n' ∈ run ∧ (Scan.takeString quote (run ++ s)).2.1 = .broken ∨
      (Scan.takeString quote (run ++ s)).2 = (Scan.takeString quote s).2 := by
  induction run with
  | nil => exact .inr rfl
  | cons c run ih =>
    obtain ⟨space, others⟩ := List.forall_mem_cons.1 spaces
    have other : c ≠ quote := by
      rintro rfl
      cases spaceless (· ∈ ['"', '\'']) (by decide) space ▸ decide_eq_true quoted
    have plain : c ≠ '\\' := by
      rintro rfl
      cases space
    rw [List.cons_append]
    by_cases line : c = '\n'
    · subst line
      rw [takeString_line other]
      exact .inl ⟨List.mem_cons_self, rfl⟩
    · rw [takeString_cons other plain line]
      rcases ih others with ⟨member, broken⟩ | same
      · exact .inl ⟨List.mem_cons_of_mem c member, broken⟩
      · exact .inr same

/-- The same ending, with texts left that go on alike. -/
def EndsAlike (intact : Prop) (first second : Ending × Text) : Prop :=
  first.1 = second.1 ∧ Tidied intact 0 first.2 second.2

theorem takeString (quoted : quote ∈ ['"', '\'']) (tidied : Tidied intact 0 s t)
    (whole : intact → (Scan.takeString quote s).2.1 ≠ .broken) :
    EndsAlike intact (Scan.takeString quote s).2 (Scan.takeString quote t).2 := by
  have signs : ∀ c ∈ ['"', '\''], isSign c = true := by decide
  have sign := signs quote quoted
  have unquoted {c : Char} (other : c ∉ ['"', '\'']) : c ≠ quote :=
    fun same => other (same ▸ quoted)
  have backslash : '\\' ≠ quote := unquoted (by decide)
  have skip {c : Char} (other : c ∉ ['"', '\'', '\\', '\n']) (rest : Text) :
      (Scan.takeString quote (c :: rest)).2 = (Scan.takeString quote rest).2 := by
    simp only [List.mem_cons, List.not_mem_nil, or_false, not_or] at other
    exact takeString_cons (unquoted (by simp [other])) other.2.2.1 other.2.2.2 rest
  -- An escape takes several characters at once, so the induction is on the length and not on
  -- `tidied`.
  induction length : s.length using Nat.strongRecOn generalizing s t with
  | ind n ih =>
    cases tidied with
    | nil =>
      rw [takeString_nil]
      exact ⟨rfl, .nil 0⟩
    | @char _ c d s t black alike rest =>
      rw [List.length_cons] at length
      by_cases ends : c = quote
      · obtain rfl : d = quote := (alike.eq_sign_iff sign).1 ends
        subst ends
        rw [takeString_quote, takeString_quote]
        exact ⟨rfl, nextReach_zero backslash.symm ▸ rest⟩
      · have goesOn := mt (alike.eq_sign_iff sign).2 ends
        by_cases slash : c = '\\'
        · obtain rfl : d = '\\' := (alike.eq_sign_iff rfl).1 slash
          subst slash
          have shorter := length_takeEscape_le s
          rw [takeString_escape backslash] at whole ⊢
          rw [takeString_escape backslash]
          refine (takeEscape rest).behind
            (P := fun right => EndsAlike intact _ (Scan.takeString quote right).2) ?_ ?_
          · intro right further
            exact ih _ (by omega) further whole rfl
          · intro right ends
            rwa [skip (by decide) right]
        · have plain : d ≠ '\\' := mt (alike.eq_sign_iff rfl).2 slash
          have line : c ≠ '\n' := by
            rintro rfl
            cases black
          have lineToo : d ≠ '\n' := by
            rintro rfl
            cases (alike.test_eq blind_isSpace).symm.trans black
          rw [takeString_cons ends slash line] at whole ⊢
          rw [takeString_cons goesOn plain lineToo]
          exact ih _ (by omega) (nextReach_zero slash ▸ rest) whole rfl
    | @dotted _ s t rest =>
      rw [List.length_cons] at length
      rw [skip (by decide) s] at whole ⊢
      rw [skip (by decide), skip (by decide) t]
      exact ih _ (by omega) rest whole rfl
    | @lone _ c s t blank solid rest =>
      rw [List.length_cons] at length
      by_cases line : c = '\n'
      -- The line feed stays, so the string is broken off in both.
      · subst line
        rw [takeString_line (unquoted (by decide)), takeString_line (unquoted (by decide))]
        exact ⟨rfl, .lone blank solid rest⟩
      · have other : c ∉ ['"', '\'', '\\', '\n'] := by
          simp only [isSpace, Bool.or_eq_true, decide_eq_true_eq] at blank
          rcases blank with (rfl | rfl) | rfl
          · decide
          · exact absurd rfl line
          · decide
        rw [skip other] at whole ⊢
        rw [skip other]
        exact ih _ (by omega) rest whole rfl
    | @gap c run s t blank spaces lines _ rest =>
      have all : ∀ d ∈ c :: run, isSpace d = true := List.forall_mem_cons.2 ⟨blank, spaces⟩
      rw [List.length_cons, List.length_append] at length
      rw [← List.cons_append] at whole ⊢
      rcases takeString_run quoted all with ⟨line, broken⟩ | same
      · exact absurd broken (whole (lines line))
      · rw [same] at whole ⊢
        rw [skip (by decide)]
        exact ih _ (by omega) rest whole rfl
    | @ends c run blank spaces lines =>
      have all : ∀ d ∈ c :: run, isSpace d = true := List.forall_mem_cons.2 ⟨blank, spaces⟩
      rw [← List.append_nil (c :: run)] at whole ⊢
      rcases takeString_run quoted all with ⟨line, broken⟩ | same
      · exact absurd broken (whole (lines line))
      · rw [same, takeString_nil]
        exact ⟨rfl, .nil 0⟩

end Strings

/-! ### Urls -/

theorem dropWhile (tidied : Tidied intact 0 s t) :
    Tidied intact 0 (s.dropWhile isSpace) (t.dropWhile isSpace) := by
  cases s with
  | nil =>
    cases tidied
    exact .nil 0
  | cons c s =>
    cases space : isSpace c with
    | false =>
      have solid : ∀ d ∈ (c :: s).head?, isSpace d = false := by
        rintro _ ⟨⟩
        exact space
      rwa [dropWhile_of_solid solid, dropWhile_of_solid (tidied.solid_of_solid solid)]
    | true =>
      rw [List.dropWhile_cons, space, if_pos rfl]
      rcases tidied.of_space space with ⟨rfl, last⟩ | ⟨d, rest, rfl, spaceToo, solid, further⟩
      · rw [last]
        exact .nil 0
      · rwa [List.dropWhile_cons, spaceToo, if_pos rfl, dropWhile_of_solid solid]

/-- How an unquoted url ends after white space. -/
def urlEnd : Text → Ending × Text
  | [] => (.endOfText, [])
  | ')' :: left => (.closed, left)
  | left => (.broken, left)

theorem urlEnd_of_ne {rest : Text} (filled : rest ≠ []) (open_ : rest.head? ≠ some ')') :
    urlEnd rest = (.broken, rest) := by
  unfold urlEnd
  split
  · exact absurd rfl filled
  · exact absurd rfl open_
  · rfl

theorem endsAlike_urlEnd (tidied : Tidied intact 0 s t) (solid : ∀ d ∈ s.head?, isSpace d = false) :
    EndsAlike intact (urlEnd s) (urlEnd t) := by
  by_cases none : s = []
  · obtain rfl := (tidied.eq_nil_iff solid).1 none
    subst none
    exact ⟨rfl, .nil 0⟩
  · have noneToo := mt (tidied.eq_nil_iff solid).2 none
    have head : s.head? = some ')' ↔ t.head? = some ')' := tidied.head?_sign_iff rfl
    by_cases closed : s.head? = some ')'
    · obtain ⟨left, rfl⟩ := List.head?_eq_some_iff.1 closed
      obtain ⟨right, rfl, rest⟩ := tidied.of_sign rfl
      exact ⟨rfl, rest⟩
    · rw [urlEnd_of_ne none closed, urlEnd_of_ne noneToo (mt head.2 closed)]
      exact ⟨rfl, tidied⟩

theorem takeUrl_nil : (Scan.takeUrl []).2 = (.endOfText, []) := by rw [Scan.takeUrl.eq_def]

theorem takeUrl_closing (rest : Text) : (Scan.takeUrl (')' :: rest)).2 = (.closed, rest) := by
  rw [Scan.takeUrl.eq_def]
  rfl

theorem takeUrl_space (space : isSpace c = true) (rest : Text) :
    (Scan.takeUrl (c :: rest)).2 = urlEnd (rest.dropWhile isSpace) := by
  have other : c ≠ ')' := by
    rintro rfl
    cases space
  rw [Scan.takeUrl.eq_def]
  simp only [if_neg other, space, if_true]
  cases rest.dropWhile isSpace with
  | nil => rfl
  | cons d left =>
    by_cases closing : d = ')'
    · rw [closing]
      rfl
    · rw [urlEnd_of_ne (List.cons_ne_nil d left) (by simpa using closing)]
      split <;> simp_all

theorem takeUrl_escape {rest : Text} (escape : startsEscape ('\\' :: rest) = true) :
    (Scan.takeUrl ('\\' :: rest)).2 = (Scan.takeUrl (Scan.takeEscape rest).2).2 := by
  rw [Scan.takeUrl.eq_def]
  simp [escape, isSpace]

theorem takeUrl_cons {rest : Text} (other : c ≠ ')') (solid : isSpace c = false)
    (plain : startsEscape (c :: rest) = false) :
    (Scan.takeUrl (c :: rest)).2 =
      if breaksUrl c then (.broken, rest) else (Scan.takeUrl rest).2 := by
  rw [Scan.takeUrl.eq_def]
  simp only [if_neg other, solid, plain, Bool.false_eq_true, if_false]
  split <;> rfl

theorem takeUrl_foreign (high : 128 ≤ c.toNat) (rest : Text) :
    (Scan.takeUrl (c :: rest)).2 = (Scan.takeUrl rest).2 := by
  have other {d : Char} (low : d.toNat < 128) : c ≠ d := by
    rintro rfl
    omega
  have solid : isSpace c = false := blind_isSpace.foreign c '\u0130' high (by decide)
  have fine : breaksUrl c = false := blind_breaksUrl.foreign c '\u0130' high (by decide)
  rw [takeUrl_cons (other (by decide)) solid (startsEscape_of_ne (other (by decide))), fine]
  rfl

theorem takeUrl (tidied : Tidied intact 0 s t) :
    EndsAlike intact (Scan.takeUrl s).2 (Scan.takeUrl t).2 := by
  induction length : s.length using Nat.strongRecOn generalizing s t with
  | ind n ih =>
    have escape := tidied.startsEscape_eq
    cases tidied with
    | nil =>
      rw [takeUrl_nil]
      exact ⟨rfl, .nil 0⟩
    | @char _ c d s t black alike rest =>
      rw [List.length_cons] at length
      by_cases closing : c = ')'
      · obtain rfl : d = ')' := (alike.eq_sign_iff rfl).1 closing
        subst closing
        rw [takeUrl_closing, takeUrl_closing]
        exact ⟨rfl, rest⟩
      · have open_ : d ≠ ')' := mt (alike.eq_sign_iff rfl).2 closing
        have blackToo := (alike.test_eq blind_isSpace).symm.trans black
        cases started : startsEscape (c :: s) with
        | true =>
          have slash : c = '\\' := by
            by_contra plain
            cases (startsEscape_of_ne plain).symm.trans started
          obtain rfl : d = '\\' := (alike.eq_sign_iff rfl).1 slash
          subst slash
          have shorter := length_takeEscape_le s
          rw [takeUrl_escape started, takeUrl_escape (escape ▸ started)]
          refine (takeEscape rest).behind
            (P := fun right => EndsAlike intact _ (Scan.takeUrl right).2) ?_ ?_
          · intro right further
            exact ih _ (by omega) further rfl
          · intro right ends
            rwa [takeUrl_foreign (by decide) right]
        | false =>
          have further := rest.of_startsEscape started
          rw [takeUrl_cons closing black started, takeUrl_cons open_ blackToo (escape ▸ started),
            ← alike.test_eq blind_breaksUrl]
          split
          · exact ⟨rfl, further⟩
          · exact ih _ (by omega) further rfl
    | @dotted _ s t rest =>
      rw [List.length_cons] at length
      rw [takeUrl_foreign (by decide) s, takeUrl_cons (by decide) rfl rfl,
        takeUrl_foreign (by decide) t]
      exact ih _ (by omega) rest rfl
    | @lone _ c s t blank solid rest =>
      have solidToo := rest.solid_of_solid solid
      rw [takeUrl_space blank, takeUrl_space blank, dropWhile_of_solid solid,
        dropWhile_of_solid solidToo]
      exact endsAlike_urlEnd rest solid
    | @gap c run s t blank spaces _ solid rest =>
      have solidToo := rest.solid_of_solid solid
      rw [takeUrl_space blank, takeUrl_space rfl, List.dropWhile_append_of_pos spaces,
        dropWhile_of_solid solid, dropWhile_of_solid solidToo]
      exact endsAlike_urlEnd rest solid
    | @ends c run blank spaces _ =>
      rw [takeUrl_space blank, List.dropWhile_eq_nil_iff.2 spaces, takeUrl_nil]
      exact ⟨rfl, .nil 0⟩

theorem dropBadUrl_cons {rest : Text} (other : c ≠ ')') (plain : c = '\\' → rest.head? ≠ some ')') :
    Scan.dropBadUrl (c :: rest) = Scan.dropBadUrl rest := by
  rw [Scan.dropBadUrl.eq_def]
  split
  · next h => cases h
  · next h =>
    obtain ⟨rfl, rfl⟩ := List.cons.inj h
    exact absurd rfl (plain rfl)
  · next h => exact absurd (List.cons.inj h).1 other
  · next h => rw [(List.cons.inj h).2]

theorem dropBadUrl_plain (other : c ∉ [')', '\\']) (rest : Text) :
    Scan.dropBadUrl (c :: rest) = Scan.dropBadUrl rest := by
  simp only [List.mem_cons, List.not_mem_nil, or_false, not_or] at other
  exact dropBadUrl_cons other.1 fun slash => absurd slash other.2

theorem dropBadUrl_run {run : Text} (spaces : ∀ d ∈ run, isSpace d = true) (rest : Text) :
    Scan.dropBadUrl (run ++ rest) = Scan.dropBadUrl rest := by
  induction run with
  | nil => rfl
  | cons c run ih =>
    obtain ⟨space, others⟩ := List.forall_mem_cons.1 spaces
    have other : c ∉ [')', '\\'] :=
      of_decide_eq_false (spaceless (· ∈ [')', '\\']) (by decide) space)
    rw [List.cons_append, dropBadUrl_plain other, ih others]

/-- A bracket ends the url in both texts, and no escape reaches over it. -/
theorem dropBadUrl (tidied : Tidied intact reach s t) :
    Tidied intact 0 (Scan.dropBadUrl s) (Scan.dropBadUrl t) := by
  induction length : s.length using Nat.strongRecOn generalizing reach s t with
  | ind n ih =>
    cases tidied with
    | nil => exact .nil 0
    | @char _ c d s t black alike rest =>
      rw [List.length_cons] at length
      by_cases closing : c = ')'
      · obtain rfl : d = ')' := (alike.eq_sign_iff rfl).1 closing
        subst closing
        exact rest
      · have open_ : d ≠ ')' := mt (alike.eq_sign_iff rfl).2 closing
        have slash : c = '\\' ↔ d = '\\' := alike.eq_sign_iff rfl
        have head : s.head? = some ')' ↔ t.head? = some ')' := rest.head?_sign_iff rfl
        by_cases escaped : c = '\\' ∧ s.head? = some ')'
        · obtain ⟨rfl, bracket⟩ := escaped
          obtain rfl := slash.1 rfl
          obtain ⟨s, rfl⟩ := List.head?_eq_some_iff.1 bracket
          obtain ⟨t, rfl, further⟩ := rest.of_sign rfl
          rw [List.length_cons] at length
          have behind := ih s.length (by omega) further rfl
          exact behind
        · rw [dropBadUrl_cons closing fun same bracket => escaped ⟨same, bracket⟩,
            dropBadUrl_cons open_ fun same bracket => escaped ⟨slash.2 same, head.2 bracket⟩]
          exact ih _ (by omega) rest rfl
    | dotted rest =>
      rw [List.length_cons] at length
      rw [dropBadUrl_plain (by decide), dropBadUrl_plain (by decide), dropBadUrl_plain (by decide)]
      exact ih _ (by omega) rest rfl
    | @lone _ c s t blank _ rest =>
      have all : ∀ d ∈ [c], isSpace d = true := List.forall_mem_singleton.2 blank
      rw [List.length_cons] at length
      have first := dropBadUrl_run all s
      have second := dropBadUrl_run all t
      rw [List.singleton_append] at first second
      rw [first, second]
      exact ih _ (by omega) rest rfl
    | @gap c run s t blank spaces _ _ rest =>
      have all : ∀ d ∈ c :: run, isSpace d = true := List.forall_mem_cons.2 ⟨blank, spaces⟩
      rw [List.length_cons, List.length_append] at length
      rw [← List.cons_append, dropBadUrl_run all, dropBadUrl_plain (by decide)]
      exact ih _ (by omega) rest rfl
    | @ends c run blank spaces _ =>
      have all : ∀ d ∈ c :: run, isSpace d = true := List.forall_mem_cons.2 ⟨blank, spaces⟩
      rw [← List.append_nil (c :: run), dropBadUrl_run all]
      exact .nil 0

/-! ### Comments -/

theorem takeComment_cons {rest : Text} (other : c = '*' → rest.head? ≠ some '/') :
    (Scan.takeComment (c :: rest)).2 = (Scan.takeComment rest).2 := by
  rw [Scan.takeComment.eq_def]
  split
  · next h => cases h
  · next h =>
    obtain ⟨rfl, rfl⟩ := List.cons.inj h
    exact absurd rfl (other rfl)
  · next h => rw [(List.cons.inj h).2]

theorem takeComment_plain (other : c ≠ '*') (rest : Text) :
    (Scan.takeComment (c :: rest)).2 = (Scan.takeComment rest).2 :=
  takeComment_cons fun star => absurd star other

theorem takeComment_run {run : Text} (spaces : ∀ d ∈ run, isSpace d = true) (rest : Text) :
    (Scan.takeComment (run ++ rest)).2 = (Scan.takeComment rest).2 := by
  induction run with
  | nil => rfl
  | cons c run ih =>
    obtain ⟨space, others⟩ := List.forall_mem_cons.1 spaces
    have other : c ≠ '*' := of_decide_eq_false (spaceless (· = '*') (by decide) space)
    rw [List.cons_append, takeComment_plain other, ih others]

theorem takeComment (tidied : Tidied intact reach s t) :
    Tidied intact 0 (Scan.takeComment s).2 (Scan.takeComment t).2 := by
  induction tidied with
  | nil => exact .nil 0
  | @char _ c d s t black alike rest ih =>
    have star : c = '*' ↔ d = '*' := alike.eq_sign_iff rfl
    have head : s.head? = some '/' ↔ t.head? = some '/' := rest.head?_sign_iff rfl
    by_cases ends : c = '*' ∧ s.head? = some '/'
    · obtain ⟨rfl, slash⟩ := ends
      obtain rfl := star.1 rfl
      obtain ⟨s, rfl⟩ := List.head?_eq_some_iff.1 slash
      obtain ⟨t, rfl, further⟩ := rest.of_sign rfl
      exact further
    · rw [takeComment_cons fun same slash => ends ⟨same, slash⟩,
        takeComment_cons fun same slash => ends ⟨star.2 same, head.2 slash⟩]
      exact ih
  | dotted rest ih =>
    rw [takeComment_plain (by decide), takeComment_plain (by decide), takeComment_plain (by decide)]
    exact ih
  | @lone _ c s t blank _ rest ih =>
    have all : ∀ d ∈ [c], isSpace d = true := List.forall_mem_singleton.2 blank
    have first := takeComment_run all s
    have second := takeComment_run all t
    rw [List.singleton_append] at first second
    rwa [first, second]
  | @gap c run s t blank spaces _ _ rest ih =>
    have all : ∀ d ∈ c :: run, isSpace d = true := List.forall_mem_cons.2 ⟨blank, spaces⟩
    rw [← List.cons_append, takeComment_run all, takeComment_plain (by decide)]
    exact ih
  | @ends c run blank spaces _ =>
    have all : ∀ d ∈ c :: run, isSpace d = true := List.forall_mem_cons.2 ⟨blank, spaces⟩
    rw [← List.append_nil (c :: run), takeComment_run all]
    exact .nil 0

/-! ### Numbers and ranges -/

/-- The same characters but for their case are taken from the front of two texts that go on
alike. -/
def TakenAlike (intact : Prop) (first second s t : Text) : Prop :=
  second = Text.asciiLower first ∧ Tidied intact 0 (s.drop first.length) (t.drop first.length)

/-- A reader that takes the same characters from texts alike. -/
def ReadsAlike (intact : Prop) (read : Text → Text) : Prop :=
  ∀ s t : Text, Tidied intact 0 s t → TakenAlike intact (read s) (read t) s t

theorem TakenAlike.of_nil {first second : Text} (tidied : Tidied intact 0 s t) (none : first = [])
    (noneToo : second = []) : TakenAlike intact first second s t := by
  subst none noneToo
  exact ⟨rfl, tidied⟩

theorem TakenAlike.eq_nil_iff {first second : Text} (taken : TakenAlike intact first second s t) :
    first = [] ↔ second = [] := by
  rw [taken.1, Text.asciiLower, List.map_eq_nil_iff]

theorem TakenAlike.length_eq {first second : Text} (taken : TakenAlike intact first second s t) :
    second.length = first.length := by
  rw [taken.1, Text.asciiLower, List.length_map]

theorem ReadsAlike.append {read more : Text → Text} (reads : ReadsAlike intact read)
    (further : ReadsAlike intact more) :
    ReadsAlike intact fun text => read text ++ more (text.drop (read text).length) := by
  intro s t tidied
  have length := (reads s t tidied).length_eq
  obtain ⟨front, rest⟩ := reads s t tidied
  obtain ⟨next, behind⟩ := further _ _ rest
  constructor
  · dsimp only
    rw [length, next, front, Text.asciiLower, Text.asciiLower, Text.asciiLower, List.map_append]
  · dsimp only
    rw [List.length_append, ← List.drop_drop, ← List.drop_drop]
    exact behind

theorem foldl_nextReach_plain {text : Text} (plain : ∀ c ∈ text, c ≠ '\\') :
    text.foldl nextReach 0 = 0 := by
  induction text with
  | nil => rfl
  | cons c text ih =>
    obtain ⟨first, others⟩ := List.forall_mem_cons.1 plain
    rw [List.foldl_cons, nextReach_zero first]
    exact ih others

theorem takeWhile_plain {test : Char → Bool} (figure : Figure test) (plain : test '\\' = false)
    (tidied : Tidied intact 0 s t) :
    t.takeWhile test = Text.asciiLower (s.takeWhile test) ∧
      ∀ n ≤ (s.takeWhile test).length, Tidied intact 0 (s.drop n) (t.drop n) := by
  obtain ⟨front, behind⟩ := tidied.takeWhile figure
  refine ⟨front, fun n bound => ?_⟩
  have rest := behind n bound
  rwa [foldl_nextReach_plain] at rest
  rintro c member rfl
  cases (all_takeWhile s _ (List.mem_of_mem_take member)).symm.trans plain

theorem readsAlike_takeWhile {test : Char → Bool} (figure : Figure test)
    (plain : test '\\' = false) :
    ReadsAlike intact (List.takeWhile test) := by
  intro s t tidied
  obtain ⟨front, behind⟩ := takeWhile_plain figure plain tidied
  exact ⟨front, behind _ (Nat.le_refl _)⟩

theorem readsAlike_take {test : Char → Bool} (figure : Figure test)
    (plain : test '\\' = false) (n : Nat) :
    ReadsAlike intact fun text => (text.takeWhile test).take n := by
  intro s t tidied
  obtain ⟨front, behind⟩ := takeWhile_plain figure plain tidied
  refine ⟨?_, behind _ (List.length_take_le' _ _)⟩
  dsimp only
  rw [front, Text.asciiLower, Text.asciiLower, List.map_take]

/-- A character that passes a test and what is read after it, if that is anything. -/
def led (test : Char → Bool) (read : Text → Text) : Text → Text
  | [] => []
  | c :: rest => if test c = true ∧ read rest ≠ [] then c :: read rest else []

theorem led_of_fails {test : Char → Bool} {read : Text → Text} (fails : test c = false)
    (rest : Text) :
    led test read (c :: rest) = [] := by
  rw [led, fails]
  rfl

theorem ReadsAlike.led {test : Char → Bool} {read : Text → Text} (figure : Figure test)
    (plain : test '\\' = false) (reads : ReadsAlike intact read) :
    ReadsAlike intact (led test read) := by
  have blank {c : Char} (space : isSpace c = true) : test c = false :=
    spaceless test (fun c member => figure.fails c (by revert member; simp; tauto)) space
  intro s t tidied
  have whole := tidied
  cases tidied with
  | nil => exact .of_nil whole rfl rfl
  | @char _ c d s t black alike rest =>
    have same := alike.test_eq (.of_ascii figure.small figure.ascii : Blind test)
    cases passes : test c with
    | false => exact .of_nil whole (led_of_fails passes s) (led_of_fails (same ▸ passes) t)
    | true =>
      have other : c ≠ '\\' := by
        rintro rfl
        cases plain.symm.trans passes
      have small : d = c.toLower := by
        rcases alike with ⟨_, small⟩ | ⟨high, _⟩
        · exact small
        · exact absurd (figure.ascii c passes) (by omega)
      have taken := reads s t (nextReach_zero other ▸ rest)
      rw [Tidied.led, Tidied.led, ← same]
      by_cases none : read s = []
      · exact .of_nil whole (if_neg fun h => h.2 none)
          (if_neg fun h => h.2 (taken.eq_nil_iff.1 none))
      · rw [if_pos ⟨passes, none⟩, if_pos ⟨passes, mt taken.eq_nil_iff.2 none⟩, small, taken.1]
        exact ⟨rfl, taken.2⟩
  | dotted rest =>
    have capital : test '\u0130' = false := by
      cases passes : test '\u0130' with
      | false => rfl
      | true => exact absurd (figure.ascii _ passes) (by decide)
    exact .of_nil whole (led_of_fails capital _) (led_of_fails (figure.fails 'i' (by decide)) _)
  | lone space _ _ =>
    exact .of_nil whole (led_of_fails (blank space) _) (led_of_fails (blank space) _)
  | gap space _ _ _ _ =>
    exact .of_nil whole (led_of_fails (blank space) _) (led_of_fails (blank rfl) _)
  | ends space _ _ => exact .of_nil whole (led_of_fails (blank space) _) rfl

theorem figure_or {test other : Char → Bool} (figure : Figure test) (figureToo : Figure other) :
    Figure fun c => test c || other c where
  small c := by rw [figure.small c, figureToo.small c]
  ascii c passes := by
    rcases Bool.or_eq_true_iff.1 passes with passes | passes
    · exact figure.ascii c passes
    · exact figureToo.ascii c passes
  fails c member := by rw [figure.fails c member, figureToo.fails c member, Bool.or_false]

theorem figure_plus : Figure (· = '+') := figure_sign rfl

theorem figure_minus : Figure (· = '-') := figure_sign rfl

theorem decimals_eq (text : Text) :
    decimals text = led (· = '.') (List.takeWhile Char.isDigit) text := by
  cases text with
  | nil => rfl
  | cons c rest =>
    by_cases point : c = '.'
    · subst point
      by_cases none : rest.takeWhile Char.isDigit = [] <;> simp [decimals, led, none]
    · simp [decimals, led, point]

theorem readsAlike_mantissa : ReadsAlike intact mantissa := by
  have point : Figure (· = '.') := figure_sign rfl
  have digits : ReadsAlike intact (List.takeWhile Char.isDigit) :=
    readsAlike_takeWhile figure_isDigit rfl
  have whole := digits.append (digits.led point (by decide))
  have same : mantissa = fun text => text.takeWhile Char.isDigit ++
      led (· = '.') (List.takeWhile Char.isDigit)
        (text.drop (text.takeWhile Char.isDigit).length) := by
    funext text
    rw [mantissa_eq, drop_length_takeWhile, decimals_eq]
  rwa [same]

/-- The digits of an exponent, with a sign if there is one. -/
def exponentDigits (text : Text) : Text :=
  let signed := led (fun c => c = '+' || c = '-') (List.takeWhile Char.isDigit) text
  signed ++ (text.drop signed.length).takeWhile Char.isDigit

theorem takeWhile_drop_takeWhile {test : Char → Bool} (text : Text) :
    (text.drop (text.takeWhile test).length).takeWhile test = [] := by
  induction text with
  | nil => rfl
  | cons c text ih =>
    cases passes : test c with
    | true => simpa [passes] using ih
    | false => simp [passes]

theorem exponentDigits_cons (c : Char) (rest : Text) :
    exponentDigits (c :: rest) =
      if c = '+' || c = '-' then
        if rest.takeWhile Char.isDigit = [] then [] else c :: rest.takeWhile Char.isDigit
      else (c :: rest).takeWhile Char.isDigit := by
  unfold exponentDigits
  cases sign : (c = '+' || c = '-' : Bool) with
  | false => simp [led, sign]
  | true =>
    have figure : c.isDigit = false := by
      rw [Bool.or_eq_true, decide_eq_true_eq, decide_eq_true_eq] at sign
      rcases sign with rfl | rfl <;> rfl
    by_cases none : rest.takeWhile Char.isDigit = []
    · simp [led, none, figure]
    · simp [led, sign, none, takeWhile_drop_takeWhile]

theorem exponent_eq (text : Text) :
    exponent text = led (fun c => c = 'e' || c = 'E') exponentDigits text := by
  cases text with
  | nil => rfl
  | cons e rest =>
    rw [exponent, led]
    cases mark : (e = 'e' || e = 'E' : Bool) with
    | false => rfl
    | true =>
      cases rest with
      | nil => rfl
      | cons c rest =>
        rw [exponentDigits_cons]
        cases sign : (c = '+' || c = '-' : Bool) with
        | false => cases digits : (c :: rest).takeWhile Char.isDigit <;> simp [sign, digits]
        | true => cases digits : rest.takeWhile Char.isDigit <;> simp [sign, digits]

theorem readsAlike_exponent : ReadsAlike intact exponent := by
  have mark : Figure fun c => c = 'e' || c = 'E' := by
    refine .of_ascii (by decide +kernel) (fun c mark => ?_) (by decide)
    rw [Bool.or_eq_true, decide_eq_true_eq, decide_eq_true_eq] at mark
    rcases mark with rfl | rfl <;> decide
  have digits : ReadsAlike intact (List.takeWhile Char.isDigit) :=
    readsAlike_takeWhile figure_isDigit rfl
  have whole :=
    ((digits.led (figure_or figure_plus figure_minus) (by decide)).append digits).led
      mark (by decide)
  rwa [funext exponent_eq]

/-- Numbers of the same characters but for their case, or none in both. -/
inductive NumbersAlike (intact : Prop) : Option (Text × Text) → Option (Text × Text) → Prop where
  | none : NumbersAlike intact none none
  | some {written left right : Text} (rest : Tidied intact 0 left right) :
      NumbersAlike intact (some (written, left)) (some (Text.asciiLower written, right))

theorem takeUnsigned (tidied : Tidied intact 0 s t) :
    NumbersAlike intact (Scan.takeUnsigned s) (Scan.takeUnsigned t) := by
  have digits := readsAlike_mantissa s t tidied
  have written := readsAlike_mantissa.append readsAlike_exponent s t tidied
  unfold Scan.takeUnsigned
  dsimp only at written ⊢
  by_cases none : mantissa s = []
  · rw [if_pos none, if_pos (digits.eq_nil_iff.1 none)]
    exact .none
  · rw [if_neg none, if_neg (mt digits.eq_nil_iff.2 none), written.length_eq, written.1]
    exact .some written.2

theorem takeNumber_of_ne {text : Text} (plus : text.head? ≠ some '+')
    (minus : text.head? ≠ some '-') :
    Scan.takeNumber text = Scan.takeUnsigned text := by
  cases text with
  | nil => rfl
  | cons c text =>
    have other : c ≠ '+' ∧ c ≠ '-' := by simpa using And.intro plus minus
    simp [Scan.takeNumber, other]

theorem takeNumber_sign {sign : Char} (signed : sign ∈ ['+', '-']) (tidied : Tidied intact 0 s t) :
    NumbersAlike intact (Scan.takeNumber (sign :: s)) (Scan.takeNumber (sign :: t)) := by
  have own : (sign = '+' || sign = '-' : Bool) = true := by simpa using signed
  have small : sign.toLower = sign := by
    simp only [List.mem_cons, List.not_mem_nil, or_false] at signed
    rcases signed with rfl | rfl <;> rfl
  rw [Scan.takeNumber, Scan.takeNumber, own, if_pos rfl, if_pos rfl]
  have numbers := tidied.takeUnsigned
  generalize Scan.takeUnsigned s = first, Scan.takeUnsigned t = second at numbers
  cases numbers with
  | none => exact .none
  | @some written left right rest =>
    have lower : sign :: Text.asciiLower written = Text.asciiLower (sign :: written) := by
      rw [Text.asciiLower, Text.asciiLower, List.map_cons, small]
    rw [Option.map_some, Option.map_some]
    dsimp only
    rw [lower]
    exact .some rest

theorem takeNumber (tidied : Tidied intact 0 s t) :
    NumbersAlike intact (Scan.takeNumber s) (Scan.takeNumber t) := by
  have plus : s.head? = some '+' ↔ t.head? = some '+' := tidied.head?_sign_iff rfl
  have minus : s.head? = some '-' ↔ t.head? = some '-' := tidied.head?_sign_iff rfl
  by_cases positive : s.head? = some '+'
  · obtain ⟨s, rfl⟩ := List.head?_eq_some_iff.1 positive
    obtain ⟨t, rfl, rest⟩ := tidied.of_sign rfl
    exact takeNumber_sign (by decide) rest
  · by_cases negative : s.head? = some '-'
    · obtain ⟨s, rfl⟩ := List.head?_eq_some_iff.1 negative
      obtain ⟨t, rfl, rest⟩ := tidied.of_sign rfl
      exact takeNumber_sign (by decide) rest
    · rw [takeNumber_of_ne positive negative,
        takeNumber_of_ne (mt plus.2 positive) (mt minus.2 negative)]
      exact tidied.takeUnsigned

theorem numeralLength?_asciiLower (written : Text) :
    (Token.number written).numeralLength? =
      (Token.number (Text.asciiLower written)).numeralLength? := by
  have digit (c : Char) : c.toLower.isDigit = c.isDigit := figure_isDigit.small c
  have plus (c : Char) : decide (c.toLower = '+') = decide (c = '+') := figure_plus.small c
  have minus (c : Char) : decide (c.toLower = '-') = decide (c = '-') := figure_minus.small c
  unfold Token.numeralLength?
  dsimp only
  rw [Text.asciiLower, List.all_map, List.filter_map, List.length_map]
  simp only [Function.comp_def, digit, plus, minus]

/-- What is left behind a range of code points. -/
theorem takeRange_left (text : Text) :
    (Scan.takeRange text).2.2 =
      let digits := (text.takeWhile isHexDigit).take 6
      let left := text.drop digits.length
      let marks := (left.takeWhile (· = '?')).take (6 - digits.length)
      if marks = [] then
        left.drop (led (· = '-') (fun rest => (rest.takeWhile isHexDigit).take 6) left).length
      else left.drop marks.length := by
  unfold Scan.takeRange
  dsimp only
  rw [escapeDigits_eq, List.drop_take, ← List.take_takeWhile, ← List.drop_drop]
  generalize text.drop ((text.takeWhile isHexDigit).take 6).length = left
  by_cases none : (left.takeWhile (· =
    '?')).take (6 - ((text.takeWhile isHexDigit).take 6).length) = []
  · rw [none, if_neg (not_not.2 rfl), if_pos rfl, List.length_nil, List.drop_zero]
    match left with
    | [] => rfl
    | [c] => simp [led]
    | c :: d :: rest =>
      by_cases hyphen : c = '-'
      · subst hyphen
        cases hex : isHexDigit d with
        | true =>
          simp only [hex, if_true]
          rw [escapeDigits_eq, led, if_pos ⟨decide_eq_true rfl, by simp [hex]⟩, List.length_cons,
            List.drop_succ_cons]
        | false => simp [led, hex]
      · rw [led_of_fails (decide_eq_false hyphen)]
        simp [hyphen]
  · rw [if_pos none, if_neg none]

theorem takeRange (tidied : Tidied intact 0 s t) :
    Tidied intact 0 (Scan.takeRange s).2.2 (Scan.takeRange t).2.2 := by
  have question : Figure (· = '?') := figure_sign rfl
  have hex : ReadsAlike intact fun text => (text.takeWhile isHexDigit).take 6 :=
    readsAlike_take figure_isHexDigit rfl 6
  have digits := hex s t tidied
  have marks :=
    readsAlike_take question (by decide) (6 - ((s.takeWhile isHexDigit).take 6).length) _ _ digits.2
  have upper := hex.led figure_minus (by decide) _ _ digits.2
  have length := digits.length_eq
  dsimp only at length marks upper
  rw [takeRange_left, takeRange_left]
  dsimp only
  rw [length]
  by_cases none : ((s.drop ((s.takeWhile isHexDigit).take 6).length).takeWhile (· = '?')).take
      (6 - ((s.takeWhile isHexDigit).take 6).length) = []
  · rw [if_pos none, if_pos (marks.eq_nil_iff.1 none), upper.length_eq]
    exact upper.2
  · rw [if_neg none, if_neg (mt marks.eq_nil_iff.2 none), marks.length_eq]
    exact marks.2

end Tidied

end StyleScore.Scan
