import StyleScore.Proofs.Selector.Descent
import StyleScore.Proofs.Selector.Segment

/-!
Texts that list selectors. A text is `Sealed` when it is scanned and cut in one piece wherever it
stands, and `Whole` when it is also read to one selector with nothing left; a `Listing` is made of
such texts, with blanks around them and commas between them. A plain list that can be read is a
listing (`listing_of_parse`), and a listing is read to its selectors (`Listing.parse_eq`).
-/
namespace StyleScore.Selector

open Scan (Scope Reads Stop normalise)
open Component (Fills Unlisted)

/-- No number is too long to be read. -/
def Legible (lexemes : List Lexeme) : Prop :=
  ∀ token, Lexeme.token token ∈ lexemes → token.numeralLength? = none

theorem legible_append {first second : List Lexeme} :
    Legible (first ++ second) ↔ Legible first ∧ Legible second := by
  simp only [Legible, List.mem_append, or_imp, forall_and]

theorem legible_token {token : Token} (short : token.numeralLength? = none) :
    Legible [.token token] := by
  rintro _ (_ | ⟨_, ⟨⟩⟩)
  exact short

theorem overlongNumeral?_eq_none (lexemes : List (Position × Lexeme)) :
    overlongNumeral? lexemes = none ↔ Legible (lexemes.map Prod.snd) := by
  simp only [overlongNumeral?, List.findSome?_eq_none_iff, Legible, List.mem_map]
  constructor
  · rintro short token ⟨⟨position, lexeme⟩, member, rfl⟩
    exact short _ member
  · rintro legible ⟨position, lexeme⟩ member
    cases lexeme with
    | token token => exact legible token ⟨_, member, rfl⟩
    | opening opener => rfl
    | closing bracket => rfl

/-- Whether a text is read to selectors is a matter of its lexemes without their places. -/
theorem parse_eq_ok_iff {text : Text} {lexemes : List Lexeme} {content : List Component}
    (reads : Reads (normalise text) lexemes []) (fills : Fills lexemes content)
    (selectors : List Complex) :
    parse text = .ok selectors ↔ Legible lexemes ∧
      list false false (pieces content) = .ok selectors := by
  obtain rfl : (scan text).map Prod.snd = lexemes := reads.map_scanFrom .start
  have outcome := sameOutcome_ofComponents fills.map_bare
  rw [← overlongNumeral?_eq_none]
  change _ ↔ _ ∧ ofComponents content = .ok selectors
  simp only [parse]
  cases overlongNumeral? (scan text) with
  | some digits => simp
  | none =>
    generalize ofComponents (Component.ofLexemes (scan text)) = first,
      ofComponents content = second at outcome
    cases outcome with
    | ok value => simp
    | @error first second kind => cases first <;> simp

/-! ### Texts in one piece -/

/-- A trimmed text that makes the same lexemes wherever it stops, with all brackets matched and no
comma outside them, and that no list is cut in. -/
structure Sealed (text : Text) (lexemes : List Lexeme) (content : List Component) : Prop where
  reads : ∀ more, Stop more → Reads (normalise text ++ more) lexemes more
  fills : Fills lexemes content
  unlisted : Unlisted content
  trimmed : text.IsTrimmed
  level : ∀ depth, Spans depth depth text
  unmarked : '&' ∉ text

/-- A plain selector without blanks around it is in one piece. -/
theorem sealed_of_plain {text : Text} (item : Scope.IsPlainItem text) (trimmed : text.IsTrimmed) :
    ∃ lexemes content, Sealed text lexemes content := by
  have bare : Scope.IsBare .top := trivial
  have filled := Scan.getLast?_normalise fun c last => Scope.isGap_of_black (trimmed.2 c last)
  obtain ⟨lexemes, walk, reads⟩ := Scan.reads_of_run bare (Scope.run_normalise item) filled
  obtain ⟨content, fills, unlisted⟩ := (Component.fills_of_walk walk).1 rfl
  exact ⟨lexemes, content, reads, fills, unlisted, trimmed, fun depth => spans_of_run depth item,
    fun mark => Scope.not_mem_of_run item _ mark (by decide)⟩

/-- What may follow a selector of a list: its end, a comma, or the bracket around the list. -/
def Closing (more : Text) : Prop := ∀ c ∈ more.head?, c = ',' ∨ c = ')'

theorem Closing.stop {more : Text} (closing : Closing more) : Stop more := by
  intro c head
  rcases closing c head with rfl | rfl <;> rfl

theorem Closing.solid {more : Text} (closing : Closing more) :
    ∀ c ∈ more.head?, Scan.isSpace c = false := by
  intro c head
  rcases closing c head with rfl | rfl <;> rfl

/-- The component value of blanks, if there are any. -/
def gapContent : Text → List Component
  | [] => []
  | c :: rest => [.leaf .start (.blank (c :: rest))]

theorem reads_gap {gap : Text} (blank : ∀ c ∈ gap, Scope.isGap c = true) :
    ∃ lexemes, (∀ rest, (∀ c ∈ rest.head?, Scan.isSpace c = false) →
      Reads (normalise gap ++ rest) lexemes rest) ∧
      Fills lexemes (gapContent (normalise gap)) ∧ Legible lexemes := by
  have spaces := Scan.isSpace_normalise blank
  cases found : normalise gap with
  | nil => exact ⟨[], fun rest _ => .done rest, .nil, nofun⟩
  | cons c tail =>
    rw [found] at spaces
    refine ⟨[.token (.blank (c :: tail))], fun rest solid => ?_, .token _, legible_token rfl⟩
    exact Scan.reads_blank (List.cons_ne_nil c tail) spaces solid

theorem kind_gapContent (gap : Text) : ∀ c ∈ gapContent gap, c.kind = .blank := by
  cases gap with
  | nil => nofun
  | cons d tail =>
    rintro c (_ | ⟨_, ⟨⟩⟩)
    rfl

theorem unlisted_gapContent (gap : Text) : Unlisted (gapContent gap) := fun c member comma => by
  cases (kind_gapContent gap c member).symm.trans comma

/-- No line end is cut before a text that does not start with a blank. -/
theorem normalise_before (before : Text) {core : Text} (trimmed : core.IsTrimmed) :
    normalise (before ++ core) = normalise before ++ normalise core := by
  refine Scan.normalise_append fun _ feed => ?_
  cases trimmed.1 _ feed

/-- No line end is cut behind a text that does not end in a blank. -/
theorem normalise_behind {core : Text} (trimmed : core.IsTrimmed) (filled : core ≠ [])
    (before after : Text) :
    normalise (before ++ core ++ after) = normalise (before ++ core) ++ normalise after := by
  refine Scan.normalise_append fun last => ?_
  rw [List.getLast?_append, List.getLast?_eq_some_getLast filled, Option.some_or] at last
  have solid := trimmed.2 _ (List.getLast?_eq_some_getLast filled)
  rw [Option.some.inj last] at solid
  cases solid

/-- Blanks around a text in one piece add nothing but blanks. -/
theorem Sealed.pad {text core : Text} {lexemes : List Lexeme} {content : List Component}
    (sealed : Sealed core lexemes content) (padded : Padded text core) :
    ∃ all before after, (∀ more, Closing more → Reads (normalise text ++ more) all more) ∧
      Fills all (gapContent before ++ content ++ gapContent after) ∧
      (Legible all ↔ Legible lexemes) := by
  obtain ⟨before, after, rfl, gaps, gapsToo, empty⟩ := padded
  obtain ⟨first, readsFirst, fillsFirst, legibleFirst⟩ := reads_gap gaps
  obtain ⟨last, readsLast, fillsLast, legibleLast⟩ := reads_gap gapsToo
  have parts : normalise (before ++ core ++ after) = normalise before ++ normalise core ++
      normalise after := by
    by_cases filled : core = []
    · rw [empty filled, List.append_nil, normalise_before before sealed.trimmed]
      exact (List.append_nil _).symm
    · rw [normalise_behind sealed.trimmed filled, normalise_before before sealed.trimmed]
  refine ⟨first ++ lexemes ++ last, normalise before, normalise after, fun more closing => ?_,
    (fillsFirst.append sealed.fills).append fillsLast, ?_⟩
  · have solid : ∀ c ∈ (normalise core ++ (normalise after ++ more)).head?,
        Scan.isSpace c = false := by
      have start :=
        Scan.head?_normalise fun c head => Scope.isGap_of_black (sealed.trimmed.1 c head)
      cases found : normalise core with
      | nil =>
        rw [empty (Scan.normalise_eq_nil.1 found)]
        exact closing.solid
      | cons c tail =>
        rw [found] at start
        exact start
    have stop : Stop (normalise after ++ more) := by
      refine Scan.mem_head?_append (fun c head => ?_) closing.stop
      have space := Scan.isSpace_normalise gapsToo c (List.mem_of_mem_head? head)
      simp [Scan.breaks, space]
    rw [parts, List.append_assoc, List.append_assoc, List.append_assoc]
    exact (readsFirst _ solid).append ((sealed.reads _ stop).append (readsLast more closing.solid))
  · rw [legible_append, legible_append]
    exact ⟨fun legible => legible.1.2, fun legible => ⟨⟨legibleFirst, legible⟩, legibleLast⟩⟩

/-! ### Selectors between commas -/

theorem pieces_append (first second : List Component) :
    pieces (first ++ second) = pieces first ++ pieces second := by
  fun_induction pieces first with
  | case1 => rfl
  | case2 position token rest ih => rw [List.cons_append, pieces, ih, List.cons_append]
  | case3 position opener content rest _ ih => rw [List.cons_append, pieces, ih, List.cons_append]

theorem map_component_pieces (content : List Component) :
    (pieces content).map Piece.component = content := by
  fun_induction pieces content with
  | case1 => rfl
  | case2 position token rest ih => rw [List.map_cons, ih]; rfl
  | case3 position opener content rest _ ih => rw [List.map_cons, ih]

theorem mem_of_mem_pieces {content : List Component} {p : Piece} (member : p ∈ pieces content) :
    p.component ∈ content := by
  rw [← map_component_pieces content]
  exact List.mem_map_of_mem member

theorem isSign_of_unlisted {content : List Component} (unlisted : Unlisted content) :
    ∀ p ∈ pieces content, p.isSign ',' = false := fun _ member =>
  decide_eq_false (unlisted _ (mem_of_mem_pieces member))

theorem isBlank_of_gap (gap : Text) : ∀ p ∈ pieces (gapContent gap), p.isBlank = true :=
  fun _ member =>
  decide_eq_true (kind_gapContent gap _ (mem_of_mem_pieces member))

variable {ps rest left : List Piece} {selector : Complex} {comma : Piece}

/-- The comma between selectors. -/
def commaPiece : Piece := .plain (.leaf .start (.literal [',']))

theorem isSign_commaPiece : commaPiece.isSign ',' = true := rfl

theorem complex_nil : complex false [] = broken .noCompound none [] := by
  rw [complex_eq, List.dropWhile_nil, compound_eq, List.dropWhile_nil, compoundAt_nil]
  rfl

theorem complex_leading {before : List Piece} (blank : ∀ p ∈ before, p.isBlank = true)
    (ps : List Piece) :
    complex false (before ++ ps) = complex false ps := by
  rw [complex_eq, complex_eq, List.dropWhile_append_of_pos fun p member =>
    isBlankOrComment_of_isBlank (blank p member)]

theorem complex_trailing {after : List Piece} (blank : ∀ p ∈ after, p.isBlank = true)
    (unlisted : ∀ p ∈ ps, p.isSign ',' = false) :
    complex false (ps ++ after) = .ok (selector, []) ↔ complex false ps = .ok (selector, []) := by
  have stops : Stops after :=
    fun p head => .inl (of_decide_eq_true (blank p (List.mem_of_mem_head? head)))
  have none : after.dropWhile Piece.isBlank = [] := List.dropWhile_eq_nil_iff.2 blank
  have closes : Closes after := by
    rw [Closes, none]
    nofun
  have ends := ends_complex stops closes (Continues.append unlisted after)
  rw [← none, ← closes.dropWhile_eq]
  generalize complex false ps = first, complex false (ps ++ after) = second at ends
  cases ends with
  | all value => rw [closes.dropWhile_eq, none]
  | early value onward solid =>
    rw [closes.dropWhile_eq, none]
    cases onward with
    | done => exact absurd rfl solid
    | next => simp
  | error => simp

theorem closes_comma (sign : comma.isSign ',' = true) (rest : List Piece) :
    Closes (comma :: rest) ∧ (comma :: rest).dropWhile Piece.isBlankOrComment = comma :: rest := by
  have kind : comma.component.kind = .sign ',' := of_decide_eq_true sign
  have solid : comma.isBlank = false := by
    rw [Piece.isBlank, Component.isBlank, kind]
    rfl
  have kept : (comma :: rest).dropWhile Piece.isBlank = comma :: rest :=
    List.dropWhile_cons_of_neg (by simp [solid])
  have closes : Closes (comma :: rest) := by
    rw [Closes, kept]
    rintro _ ⟨⟩
    exact kind
  exact ⟨closes, closes.dropWhile_eq.trans kept⟩

theorem stops_comma (sign : comma.isSign ',' = true) (rest : List Piece) :
    Stops (comma :: rest) := by
  rintro _ ⟨⟩
  exact .inr (of_decide_eq_true sign)

/-- What is left of a selector before a comma is nothing, or no list can go on from there. -/
theorem ends_comma (sign : comma.isSign ',' = true) (unlisted : ∀ p ∈ ps, p.isSign ',' = false)
    (rest : List Piece) :
    Ends (comma :: rest) (complex false ps) (complex false (ps ++ comma :: rest)) :=
  ends_complex (stops_comma sign rest) (closes_comma sign rest).1 (Continues.append unlisted _)

theorem members_of_unlisted {p : Piece} (plain : p.isSign ',' = false) (rest : List Piece) :
    members false false (p :: rest) = .error (.broken .unexpectedToken p.component) := by
  rw [members_eq, plain]
  rfl

theorem complex_comma (sign : comma.isSign ',' = true) (unlisted : ∀ p ∈ ps, p.isSign ',' = false)
    (success : complex false ps = .ok (selector, [])) (rest : List Piece) :
    complex false (ps ++ comma :: rest) = .ok (selector, comma :: rest) := by
  have ends := ends_comma sign unlisted rest
  rw [success] at ends
  generalize complex false (ps ++ comma :: rest) = second at ends
  cases ends with
  | all => rw [(closes_comma sign rest).2]
  | early _ _ solid => exact absurd rfl solid

/-- Before a comma the same selector is read, and all of it, if the list goes on. -/
theorem complex_of_comma (sign : comma.isSign ',' = true)
    (unlisted : ∀ p ∈ ps, p.isSign ',' = false) {selectors : List Complex}
    (success : complex false (ps ++ comma :: rest) = .ok (selector, left))
    (others : members false false left = .ok selectors) :
    complex false ps = .ok (selector, []) ∧ left = comma :: rest := by
  have ends := ends_comma sign unlisted rest
  rw [success] at ends
  generalize complex false ps = first at ends
  cases ends with
  | all => exact ⟨rfl, (closes_comma sign rest).2⟩
  | early _ onward solid =>
    cases onward with
    | done => exact absurd rfl solid
    | @next p q _ _ same inner _ =>
      rw [members_of_unlisted (same.isSign_eq ',' ▸ inner (List.cons_ne_nil _ _))] at others
      cases others

/-- At the end of a list all is read. -/
theorem complex_of_end (unlisted : ∀ p ∈ ps, p.isSign ',' = false) {selectors : List Complex}
    (success : complex false ps = .ok (selector, left))
    (others : members false false left = .ok selectors) :
    left = [] ∧ selectors = [] := by
  -- What would be left if a comma followed is no comma, so the list could not go on from it.
  have ends := ends_comma isSign_commaPiece unlisted []
  rw [success] at ends
  generalize complex false (ps ++ _) = second at ends
  cases left with
  | nil =>
    rw [members] at others
    cases others
    exact ⟨rfl, rfl⟩
  | cons p tail =>
    cases ends with
    | early _ onward solid =>
      cases onward with
      | next same inner =>
        rw [members_of_unlisted (inner (List.cons_ne_nil _ _))] at others
        cases others

/-! ### Listings -/

/-- A text in one piece that is read to one selector, which may be continued. -/
structure Whole (text : Text) (selector : Complex) : Prop where
  reading : ∃ lexemes content, Sealed text lexemes content ∧ Legible lexemes ∧
    complex false (pieces content) = .ok (selector, [])
  goesOn : selector.endsInPseudoElement = false

theorem Whole.ne_nil {text : Text} (whole : Whole text selector) : text ≠ [] := by
  obtain ⟨lexemes, content, sealed, -, success⟩ := whole.reading
  rintro rfl
  have reads : Reads [] lexemes [] := sealed.reads [] .nil
  cases reads
  obtain rfl := sealed.fills.ofLexemes_eq
  have none : Component.ofLexemes (Component.unplaced []) = [] := rfl
  rw [none, pieces, complex_nil] at success
  cases success

/-- Selectors with blanks around them and commas between them. -/
inductive Listing : Text → List Complex → Prop where
  | one {text core : Text} {selector : Complex} (padded : Padded text core)
      (whole : Whole core selector) :
      Listing text [selector]
  | more {text core rest : Text} {selector : Complex} {selectors : List Complex}
      (padded : Padded text core) (whole : Whole core selector) (others : Listing rest selectors) :
      Listing (text ++ ',' :: rest) (selector :: selectors)

theorem Listing.goesOn {text : Text} {selectors : List Complex} (listing : Listing text selectors) :
    ∀ s ∈ selectors, s.endsInPseudoElement = false := by
  induction listing with
  | one padded whole => exact List.forall_mem_cons.2 ⟨whole.goesOn, nofun⟩
  | more padded whole others ih => exact List.forall_mem_cons.2 ⟨whole.goesOn, ih⟩

/-- A list of selectors is read, whether it is forgiving or not. -/
def Listed (content : List Component) (selectors : List Complex) : Prop :=
  ∃ selector others left, selectors = selector :: others ∧
    complex false (pieces content) = .ok (selector, left) ∧
      ∀ forgiving, members forgiving false left = .ok others

theorem Listed.list_eq {content : List Component} {selectors : List Complex}
    (listed : Listed content selectors) (forgiving : Bool) :
    list forgiving false (pieces content) = .ok selectors := by
  obtain ⟨selector, others, left, rfl, first, rest⟩ := listed
  simp only [list, first, rest]
  rfl

/-- A text that is read as a list wherever the list may end. -/
structure Laid (text : Text) (lexemes : List Lexeme) (content : List Component) : Prop where
  reads : ∀ more, Closing more → Reads (normalise text ++ more) lexemes more
  fills : Fills lexemes content

/-- One selector with blanks around it. -/
theorem Sealed.laid {text core : Text} {lexemes : List Lexeme} {content : List Component}
    (sealed : Sealed core lexemes content) (padded : Padded text core) :
    ∃ all whole, Laid text all whole ∧ (Legible all ↔ Legible lexemes) ∧
      (∀ p ∈ pieces whole, p.isSign ',' = false) ∧
      ∀ selector, complex false (pieces whole) = .ok (selector, []) ↔
        complex false (pieces content) = .ok (selector, []) := by
  obtain ⟨all, before, after, reads, fills, legible⟩ := sealed.pad padded
  have plain := unlisted_gapContent
  refine ⟨all, _, ⟨reads, fills⟩, legible, isSign_of_unlisted ?_, fun selector => ?_⟩
  · exact List.forall_mem_append.2 ⟨List.forall_mem_append.2 ⟨plain before, sealed.unlisted⟩,
      plain after⟩
  · rw [pieces_append, pieces_append, List.append_assoc, complex_leading (isBlank_of_gap before),
      complex_trailing (isBlank_of_gap after) (isSign_of_unlisted sealed.unlisted)]

/-- A list behind a selector and a comma. -/
theorem Laid.listed {text rest : Text} {lexemes others : List Lexeme}
    {content further : List Component} (laid : Laid text lexemes content)
    (laidToo : Laid rest others further) :
    Laid (text ++ ',' :: rest) (lexemes ++ .token (.literal [',']) :: others)
      (content ++ .leaf .start (.literal [',']) :: further) := by
  refine ⟨fun more closing => ?_, laid.fills.append ((Fills.token _).append laidToo.fills)⟩
  have parts : normalise (text ++ ',' :: rest) = normalise text ++ ',' :: normalise rest := by
    rw [Scan.normalise_append fun _ feed => by cases feed]
    rfl
  rw [parts, List.append_assoc]
  refine (laid.reads _ ?_).append ((Scan.reads_comma _).append (laidToo.reads more closing))
  rintro _ ⟨⟩
  exact .inl rfl

theorem pieces_comma (content further : List Component) :
    pieces (content ++ .leaf .start (.literal [',']) :: further) =
      pieces content ++ commaPiece :: pieces further := by
  rw [pieces_append, pieces]
  rfl

theorem legible_comma {first second : List Lexeme} :
    Legible (first ++ .token (.literal [',']) :: second) ↔ Legible first ∧ Legible second := by
  have short : Legible [.token (.literal [','])] := legible_token rfl
  rw [legible_append, ← List.singleton_append, legible_append]
  simp [short]

/-- A listing is read to its selectors. -/
theorem Listing.laid {text : Text} {selectors : List Complex} (listing : Listing text selectors) :
    ∃ lexemes content, Laid text lexemes content ∧ Legible lexemes ∧ Listed content selectors := by
  induction listing with
  | @one text core selector padded whole =>
    obtain ⟨lexemes, content, sealed, legible, success⟩ := whole.reading
    obtain ⟨all, padding, laid, kept, -, same⟩ := sealed.laid padded
    exact ⟨all, padding, laid, kept.2 legible, selector, [], [], rfl, (same selector).2 success,
      fun _ => by rw [members]⟩
  | @more text core rest selector selectors padded whole _ ih =>
    obtain ⟨lexemes, content, sealed, legible, success⟩ := whole.reading
    obtain ⟨all, padding, laid, kept, unlisted, same⟩ := sealed.laid padded
    obtain ⟨others, further, laidToo, legibleToo, second, last, left, rfl, read, readOn⟩ := ih
    refine ⟨_, _, laid.listed laidToo, legible_comma.2 ⟨kept.2 legible, legibleToo⟩, selector,
      second :: last, commaPiece :: pieces further, rfl, ?_, fun forgiving => ?_⟩
    · rw [pieces_comma]
      exact complex_comma isSign_commaPiece unlisted ((same selector).2 success) _
    · rw [members_eq, if_pos isSign_commaPiece, read]
      simp only [readOn]
      rfl

theorem Listing.parse_eq {text : Text} {selectors : List Complex}
    (listing : Listing text selectors) :
    parse text = .ok selectors := by
  obtain ⟨lexemes, content, laid, legible, listed⟩ := listing.laid
  have reads := laid.reads [] (by rintro _ ⟨⟩)
  rw [List.append_nil] at reads
  exact (parse_eq_ok_iff reads laid.fills selectors).2 ⟨legible, listed.list_eq false⟩

theorem list_eq_ok {ps : List Piece} {selectors : List Complex}
    (success : list false false ps = .ok selectors) :
    ∃ selector others left, selectors = selector :: others ∧
      complex false ps = .ok (selector, left) ∧
      members false false left = .ok others := by
  unfold list at success
  cases read : complex false ps with
  | error failure =>
    obtain ⟨mistake, left⟩ := failure
    rw [read] at success
    cases mistake <;> cases success
  | ok reading =>
    obtain ⟨selector, left⟩ := reading
    simp only [read] at success
    cases rest : members false false left with
    | error mistake => rw [rest] at success; cases success
    | ok others =>
      rw [rest] at success
      cases success
      exact ⟨selector, others, left, rfl, rfl, rest⟩

/-- Behind a comma a list starts anew. -/
theorem members_comma (sign : comma.isSign ',' = true) (ps : List Piece) :
    members false false (comma :: ps) = list false false ps := by
  rw [members_eq, if_pos sign]
  rfl

/-- Plain selectors joined by commas are read only if they are a listing. -/
theorem listing_of_segments {segments : List Text} (filled : segments ≠ [])
    (items : ∀ s ∈ segments, Scope.IsPlainItem s) :
    ∃ lexemes content, Laid (Text.joinWith [','] segments) lexemes content ∧
      (Legible lexemes → ∀ selectors, list false false (pieces content) = .ok selectors →
        (∀ s ∈ selectors, s.endsInPseudoElement = false) →
        Listing (Text.joinWith [','] segments) selectors) := by
  induction segments with
  | nil => exact absurd rfl filled
  | cons segment segments ih =>
    obtain ⟨item, others⟩ := List.forall_mem_cons.1 items
    obtain ⟨core, padded, plain, trimmed⟩ := padded_of_plain item
    obtain ⟨lexemes, content, sealed⟩ := sealed_of_plain plain trimmed
    obtain ⟨all, padding, laid, kept, unlisted, same⟩ := sealed.laid padded
    by_cases last : segments = []
    · subst last
      refine ⟨all, padding, laid, fun legible selectors success goesOn => ?_⟩
      obtain ⟨selector, rest, left, rfl, read, readOn⟩ := list_eq_ok success
      obtain ⟨rfl, rfl⟩ := complex_of_end unlisted read readOn
      exact .one padded ⟨⟨lexemes, content, sealed, kept.1 legible, (same selector).1 read⟩,
        goesOn _ List.mem_cons_self⟩
    · obtain ⟨further, after, laidToo, listing⟩ := ih last others
      rw [joinWith_cons last, List.append_assoc]
      refine ⟨_, _, laid.listed laidToo, fun legible selectors success goesOn => ?_⟩
      obtain ⟨legibleFirst, legibleRest⟩ := legible_comma.1 legible
      rw [pieces_comma] at success
      obtain ⟨selector, rest, left, rfl, read, readOn⟩ := list_eq_ok success
      obtain ⟨first, rfl⟩ := complex_of_comma isSign_commaPiece unlisted read readOn
      obtain ⟨goesOnFirst, goesOnRest⟩ := List.forall_mem_cons.1 goesOn
      have tail := listing legibleRest rest (members_comma isSign_commaPiece _ ▸ readOn) goesOnRest
      exact .more padded ⟨⟨lexemes, content, sealed, kept.1 legibleFirst, (same selector).1 first⟩,
        goesOnFirst⟩ tail

/-- A plain list of selectors without pseudo-elements that can be read is a listing. -/
theorem listing_of_parse {text : Text} {selectors : List Complex} (plain : Scope.IsPlainList text)
    (success : parse text = .ok selectors)
    (goesOn : ∀ s ∈ selectors, s.endsInPseudoElement = false) :
    Listing text selectors := by
  obtain ⟨segment, segments, found, item, others⟩ := segments_of_run plain
  obtain ⟨lexemes, content, laid, listing⟩ :=
    listing_of_segments (List.cons_ne_nil segment segments) (List.forall_mem_cons.2 ⟨item, others⟩)
  have joined := joinWith_segmentsFrom 0 text
  rw [show segmentsFrom 0 text = segment :: segments from found] at joined
  rw [joined] at laid listing
  have reads := laid.reads [] (by rintro _ ⟨⟩)
  rw [List.append_nil] at reads
  obtain ⟨legible, read⟩ := (parse_eq_ok_iff reads laid.fills selectors).1 success
  exact listing legible selectors read goesOn

end StyleScore.Selector
