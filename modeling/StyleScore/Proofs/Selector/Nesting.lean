import Mathlib.Data.List.Forall2
import StyleScore.Proofs.Selector.Listing

/-!
The text of a nested rule's selector. A listing completed by the listing around it is a listing
again, of each selector below the one that stands for the rule around (`listing_nest`), so that
specificities add up level by level (`weighs_nestAll`).
-/
namespace StyleScore.Selector

open Scan (Scope Reads Stop normalise)
open Component (Fills Unlisted)

theorem spans_gap {gap : Text} (blank : ∀ c ∈ gap, Scope.isGap c = true) (depth : Nat) :
    Spans depth depth gap := by
  induction gap with
  | nil => exact .nil depth
  | cons c gap ih =>
    obtain ⟨first, others⟩ := List.forall_mem_cons.1 blank
    have plain : c ∉ ['(', ')', '[', ']', ','] := fun sign => by
      have none : ∀ d ∈ ['(', ')', '[', ']', ','], Scope.isGap d = false := by decide
      cases first.symm.trans (none c sign)
    simp only [List.mem_cons, List.not_mem_nil, or_false, not_or] at plain
    refine .cons (fun comma => absurd comma plain.2.2.2.2) ?_
    rw [depthAfter_of_plain (by simp [plain])]
    exact ih others

theorem not_mem_gap {gap : Text} (blank : ∀ c ∈ gap, Scope.isGap c = true) : '&' ∉ gap := by
  intro mark
  cases blank _ mark

theorem Padded.spans {text core : Text} (padded : Padded text core) {depth : Nat}
    (level : Spans depth depth core) :
    Spans depth depth text := by
  obtain ⟨before, after, rfl, gaps, gapsToo, -⟩ := padded
  exact ((spans_gap gaps depth).append level).append (spans_gap gapsToo depth)

/-! ### A selector below another -/

theorem trimmed_append {first second : Text} (trimmed : first.IsTrimmed)
    (trimmedToo : second.IsTrimmed) (filled : first ≠ []) (filledToo : second ≠ []) (gap : Text) :
    (first ++ gap ++ second).IsTrimmed := by
  refine ⟨fun c head => trimmed.1 c ?_, fun c last => trimmedToo.2 c ?_⟩
  · cases first with
    | nil => exact absurd rfl filled
    | cons d rest => exact head
  · rw [List.getLast?_append, List.getLast?_eq_some_getLast filledToo] at last
    rw [List.getLast?_eq_some_getLast filledToo]
    exact last

/-- Two texts in one piece with blanks between them are one in one piece. -/
theorem Sealed.join {first gap second : Text} {lexemes others : List Lexeme}
    {content further : List Component} (sealed : Sealed first lexemes content)
    (sealedToo : Sealed second others further) (filled : first ≠ []) (filledToo : second ≠ [])
    (apart : gap ≠ []) (blank : ∀ c ∈ gap, Scope.isGap c = true) :
    ∃ between, Legible between ∧ Sealed (first ++ gap ++ second) (lexemes ++ between ++ others)
      (content ++ gapContent (normalise gap) ++ further) := by
  obtain ⟨between, readsGap, fillsGap, legible⟩ := reads_gap blank
  have parts : normalise (first ++ gap ++ second) = normalise first ++ normalise gap ++
      normalise second := by
    have behind := normalise_behind sealed.trimmed filled [] gap
    rw [List.nil_append] at behind
    rw [normalise_before _ sealedToo.trimmed, behind]
  have stop (rest : Text) : Stop (normalise gap ++ rest) := by
    have spaces := Scan.isSpace_normalise blank
    obtain ⟨c, tail, found⟩ := List.exists_cons_of_ne_nil (mt Scan.normalise_eq_nil.1 apart)
    rw [found] at spaces ⊢
    rintro _ ⟨⟩
    simp [Scan.breaks, spaces c List.mem_cons_self]
  have solid (rest : Text) : ∀ d ∈ (normalise second ++ rest).head?, Scan.isSpace d = false := by
    have start :=
      Scan.head?_normalise fun d head => Scope.isGap_of_black (sealedToo.trimmed.1 d head)
    obtain ⟨d, tail, found⟩ := List.exists_cons_of_ne_nil (mt Scan.normalise_eq_nil.1 filledToo)
    rw [found] at start ⊢
    exact start
  refine ⟨between, legible, fun more stops => ?_,
    (sealed.fills.append fillsGap).append sealedToo.fills, ?_,
    trimmed_append sealed.trimmed sealedToo.trimmed filled filledToo gap, fun depth => ?_, ?_⟩
  · rw [parts, List.append_assoc, List.append_assoc, List.append_assoc]
    exact (sealed.reads _ (stop _)).append
      ((readsGap _ (solid more)).append (sealedToo.reads more stops))
  · exact List.forall_mem_append.2
      ⟨List.forall_mem_append.2 ⟨sealed.unlisted, unlisted_gapContent _⟩, sealedToo.unlisted⟩
  · exact ((sealed.level depth).append (spans_gap blank depth)).append (sealedToo.level depth)
  · simp [sealed.unmarked, not_mem_gap blank, sealedToo.unmarked]

theorem complex_below {content further : List Component} {gap : Text} {left selector : Complex}
    (apart : gap ≠ []) (unlisted : Unlisted content) (goesOn : left.endsInPseudoElement = false)
    (success : complex false (pieces content) = .ok (left, []))
    (successToo : complex false (pieces further) = .ok (selector, [])) :
    complex false (pieces (content ++ gapContent gap ++ further)) =
      .ok (left.attach selector, []) := by
  cases gap with
  | nil => exact absurd rfl apart
  | cons c tail =>
    have between : pieces (content ++ gapContent (c :: tail) ++ further) =
        pieces content ++ .plain (.leaf .start (.blank (c :: tail))) :: pieces further := by
      rw [pieces_append, pieces_append, List.append_assoc, gapContent, pieces, pieces]
      rfl
    have stops : Stops (.plain (.leaf .start (.blank (c :: tail))) :: pieces further) := by
      rintro _ ⟨⟩
      exact .inl rfl
    rw [between, complex_continued stops (Continues.append (isSign_of_unlisted unlisted) _)
      success goesOn]
    exact complex_descendant goesOn rfl successToo

/-- A selector, blanks and another selector are one selector, the second below the first. -/
theorem Whole.descendant {first gap second : Text} {left selector : Complex}
    (whole : Whole first left) (wholeToo : Whole second selector) (apart : gap ≠ [])
    (blank : ∀ c ∈ gap, Scope.isGap c = true) :
    Whole (first ++ gap ++ second) (left.attach selector) := by
  obtain ⟨lexemes, content, sealed, legible, success⟩ := whole.reading
  obtain ⟨others, further, sealedToo, legibleToo, successToo⟩ := wholeToo.reading
  obtain ⟨between, legibleGap, joined⟩ :=
    sealed.join sealedToo whole.ne_nil wholeToo.ne_nil apart blank
  refine ⟨⟨_, _, joined, legible_append.2 ⟨legible_append.2 ⟨legible, legibleGap⟩, legibleToo⟩, ?_⟩,
    ?_⟩
  · exact complex_below (mt Scan.normalise_eq_nil.1 apart) sealed.unlisted whole.goesOn
      success successToo
  · rw [Complex.endsInPseudoElement_attach]
    exact wholeToo.goesOn

/-! ### A list in brackets -/

theorem Listing.spans {text : Text} {selectors : List Complex} (listing : Listing text selectors)
    (depth : Nat) :
    Spans (depth + 1) (depth + 1) text := by
  induction listing with
  | one padded whole =>
    obtain ⟨lexemes, content, sealed, -⟩ := whole.reading
    exact padded.spans (sealed.level _)
  | more padded whole others ih =>
    obtain ⟨lexemes, content, sealed, -⟩ := whole.reading
    exact (padded.spans (sealed.level _)).append (.cons (fun _ => Nat.succ_pos depth) ih)

theorem Listing.unmarked {text : Text} {selectors : List Complex}
    (listing : Listing text selectors) : '&' ∉ text := by
  have plain {text core : Text} (padded : Padded text core)
      (unmarked : '&' ∉ core) : '&' ∉ text := by
    obtain ⟨before, after, rfl, gaps, gapsToo, -⟩ := padded
    simp [not_mem_gap gaps, unmarked, not_mem_gap gapsToo]
  induction listing with
  | one padded whole =>
    obtain ⟨lexemes, content, sealed, -⟩ := whole.reading
    exact plain padded sealed.unmarked
  | more padded whole others ih =>
    obtain ⟨lexemes, content, sealed, -⟩ := whole.reading
    simp [plain padded sealed.unmarked, ih]

/-- The selector that stands for any of a list. -/
def anyOf (selectors : List Complex) : Complex := .compound [.logical .oneOf selectors]

/-- The component values of a list in brackets. -/
def bracketed (content : List Component) : List Component :=
  [.leaf .start (.literal [':']), .block .start (.function "is".toList) content]

/-- Its pieces, once the list is read. -/
def bracketedPieces (content : List Component) (selectors : List Complex) : List Piece :=
  [.plain (.leaf .start (.literal [':'])),
    ⟨.block .start (.function "is".toList) content, .ok selectors⟩]

theorem compound_bracketed (content : List Component) (selectors : List Complex) :
    compound (bracketedPieces content selectors) = .ok ([.logical .oneOf selectors], []) := by
  have unnamed : qualifiedName false (bracketedPieces content selectors) =
      .ok (none, bracketedPieces content selectors) := rfl
  have one : simple (bracketedPieces content selectors) =
      .ok (some (.logical .oneOf selectors), []) := rfl
  have none : simples [] = .ok ([], []) := by
    rw [simples_eq]
    rfl
  have all : simples (bracketedPieces content selectors) =
      .ok ([.logical .oneOf selectors], []) := by
    rw [simples_eq, one]
    exact (if_neg Bool.false_ne_true).trans (by rw [none]; rfl)
  have start : (bracketedPieces content selectors).dropWhile Piece.isBlank =
      bracketedPieces content selectors := rfl
  rw [compound_eq, start]
  simp only [compoundAt, unnamed, all]
  rfl

theorem complex_bracketed {content : List Component} {selectors : List Complex}
    (listed : Listed content selectors) (goesOn : ∀ s ∈ selectors, s.endsInPseudoElement = false) :
    complex false (pieces (bracketed content)) = .ok (anyOf selectors, []) := by
  have members : arguments (.function "is".toList) (pieces content) = .ok selectors := by
    have name : Logical.ofName? (Text.asciiLower "is".toList) = some .oneOf := by decide
    have all : selectors.filter (fun s => !s.endsInPseudoElement) = selectors :=
      List.filter_eq_self.2 fun s member => by rw [goesOn s member]; rfl
    simp only [arguments, name]
    rw [show Logical.relative .oneOf = false from rfl, listed.list_eq]
    exact congrArg Except.ok all
  have read : pieces (bracketed content) = bracketedPieces content selectors := by
    rw [bracketed, pieces, pieces, pieces, members]
    rfl
  have start : (bracketedPieces content selectors).dropWhile Piece.isBlankOrComment =
      bracketedPieces content selectors := rfl
  rw [read, complex_eq, start, compound_bracketed]
  dsimp only
  rw [complexFrom_eq]
  rfl

/-- A listing in brackets is one selector. -/
theorem Listing.whole_anyOf {text : Text} {selectors : List Complex}
    (listing : Listing text selectors) :
    Whole (":is(".toList ++ text ++ [')']) (anyOf selectors) := by
  obtain ⟨lexemes, content, laid, legible, listed⟩ := listing.laid
  have parts : normalise (":is(".toList ++ text ++ [')']) =
      ":is(".toList ++ normalise text ++ [')'] := by
    have behind : (":is(".toList ++ text).getLast? = some '\r' → [')'].head? ≠ some '\n' := nofun
    have before : ":is(".toList.getLast? = some '\r' → text.head? ≠ some '\n' := nofun
    rw [Scan.normalise_append behind, Scan.normalise_append before]
    rfl
  have spans (depth : Nat) : Spans depth depth (":is(".toList ++ text ++ [')']) := by
    have opens : Spans depth (depth + 1) ":is(".toList :=
      .cons nofun (.cons nofun (.cons nofun (spans_char nofun)))
    exact (opens.append (listing.spans depth)).append (spans_char nofun)
  refine ⟨⟨_, bracketed content, ⟨fun more stop => ?_,
    (Fills.token (.literal [':'])).append (laid.fills.block (.function "is".toList)), ?_, ?_,
    spans, ?_⟩, ?_, complex_bracketed listed listing.goesOn⟩, rfl⟩
  · have closing : Closing (')' :: more) := by
      rintro _ ⟨⟩
      exact .inr rfl
    rw [parts, List.append_assoc, List.append_assoc]
    exact (Scan.reads_oneOf _).append ((laid.reads _ closing).append (Scan.reads_closing more))
  · exact List.forall_mem_cons.2 ⟨nofun, List.forall_mem_cons.2 ⟨nofun, nofun⟩⟩
  · refine ⟨?_, fun c last => ?_⟩
    · rintro _ ⟨⟩
      rfl
    · rw [List.getLast?_append] at last
      cases last
      rfl
  · simp [listing.unmarked]
  · have sign : Legible [.token (.literal [':'])] := legible_token rfl
    have opening : Legible [.opening (.function "is".toList)] := by simp [Legible]
    have closing : Legible [.closing .round] := by simp [Legible]
    exact legible_append.2 ⟨sign, legible_append.2 ⟨legible_append.2 ⟨opening, legible⟩, closing⟩⟩

/-! ### Completing a selector by the one around it -/

theorem Listing.ne_nil {text : Text} {selectors : List Complex} (listing : Listing text selectors) :
    text ≠ [] ∧ selectors ≠ [] := by
  cases listing with
  | one padded whole =>
    obtain ⟨before, after, rfl, -⟩ := padded
    refine ⟨fun empty => whole.ne_nil ?_, List.cons_ne_nil _ _⟩
    exact (List.append_eq_nil_iff.1 (List.append_eq_nil_iff.1 empty).1).2
  | more => exact ⟨by simp, List.cons_ne_nil _ _⟩

theorem Listing.specificity_eq {text : Text} {selectors : List Complex}
    (listing : Listing text selectors) :
    specificity text = .ok (greatest selectors) := by
  rw [specificity, if_neg listing.ne_nil.1, listing.parse_eq]
  rfl

/-- The parts of a listing are its selectors without the blanks around them. -/
theorem Listing.split_eq {text : Text} {selectors : List Complex}
    (listing : Listing text selectors) :
    List.Forall₂ Whole (split text) selectors := by
  induction listing with
  | one padded whole =>
    obtain ⟨lexemes, content, sealed, -⟩ := whole.reading
    rw [split, (padded.spans (sealed.level 0)).segmentsFrom_eq, List.map_singleton,
      padded.trim_eq sealed.trimmed, List.filter_cons_of_pos (by simp [whole.ne_nil])]
    exact .cons whole .nil
  | more padded whole _ ih =>
    obtain ⟨lexemes, content, sealed, -⟩ := whole.reading
    rw [split, (padded.spans (sealed.level 0)).segmentsFrom_comma, List.map_cons,
      padded.trim_eq sealed.trimmed, List.filter_cons_of_pos (by simp [whole.ne_nil])]
    exact .cons whole ih

theorem specificity_anyOf (selectors : List Complex) :
    (anyOf selectors).specificity = greatest selectors := by
  rw [anyOf, Complex.specificity, sum, sum, Specificity.add_zero, Simple.specificity]
  intro unweighted
  cases unweighted

/-- A listing stands in the selectors of the rules in it as one selector, as specific as itself. -/
theorem Listing.asParent {text : Text} {selectors : List Complex}
    (listing : Listing text selectors) :
    ∃ core selector, Padded (asParent text) core ∧ Whole core selector ∧
      selector.specificity = greatest selectors := by
  have count := listing.split_eq.length_eq
  unfold Selector.asParent
  rw [count]
  cases listing with
  | @one _ core selector padded whole =>
    rw [if_neg (by simp)]
    exact ⟨core, selector, padded, whole, (greatest_singleton selector).symm⟩
  | @more text core rest selector selectors padded whole others =>
    have several : 1 < (selector :: selectors).length := by
      have filled := List.length_pos_iff.2 others.ne_nil.2
      rw [List.length_cons]
      omega
    rw [if_pos several]
    have listing : Listing (text ++ ',' :: rest) (selector :: selectors) :=
      .more padded whole others
    exact ⟨_, anyOf (selector :: selectors), ⟨[], [], by simp, nofun, nofun, fun _ => rfl⟩,
      listing.whole_anyOf, specificity_anyOf _⟩

/-- One selector of a list, with blanks around it. -/
def Item (text : Text) (selector : Complex) : Prop := ∃ core, Padded text core ∧ Whole core selector

theorem Listing.lead {text : Text} {selectors : List Complex} (listing : Listing text selectors) :
    Listing (' ' :: text) selectors := by
  have lead {text core : Text} (padded : Padded text core) : Padded (' ' :: text) core := by
    obtain ⟨before, after, rfl, gaps, gapsToo, empty⟩ := padded
    exact ⟨' ' :: before, after, rfl, List.forall_mem_cons.2 ⟨rfl, gaps⟩, gapsToo, empty⟩
  cases listing with
  | one padded whole => exact .one (lead padded) whole
  | more padded whole others => exact .more (lead padded) whole others

theorem listing_join {texts : List Text} {selectors : List Complex}
    (items : List.Forall₂ Item texts selectors) (filled : texts ≠ []) :
    Listing (Text.joinWith ", ".toList texts) selectors := by
  induction items with
  | nil => exact absurd rfl filled
  | @cons text selector texts selectors item others ih =>
    obtain ⟨core, padded, whole⟩ := item
    by_cases last : texts = []
    · subst last
      cases others
      exact .one padded whole
    · rw [joinWith_cons last, List.append_assoc]
      exact .more padded whole (ih last).lead

theorem item_nestPart {parent core part : Text} {left selector : Complex}
    (padded : Padded parent core) (whole : Whole core left) (wholeToo : Whole part selector) :
    Item (nestPart parent part) (left.attach selector) := by
  obtain ⟨lexemes, content, sealed, -⟩ := wholeToo.reading
  obtain ⟨before, after, rfl, gaps, gapsToo, -⟩ := padded
  have gap : ∀ c ∈ after ++ [' '], Scope.isGap c = true :=
    List.forall_mem_append.2 ⟨gapsToo, List.forall_mem_cons.2 ⟨rfl, nofun⟩⟩
  refine ⟨core ++ (after ++ [' ']) ++ part, ⟨before, [], ?_, gaps, nofun, fun _ => rfl⟩,
    whole.descendant wholeToo (by simp) gap⟩
  rw [nestPart, if_neg sealed.unmarked]
  simp

/-- A listing completed by the one around it is a listing of its selectors below the one that stands
for the rule around. -/
theorem listing_nest {around own : Text} {outer inner : List Complex}
    (listing : Listing around outer) (listingToo : Listing own inner) :
    ∃ left : Complex, left.specificity = greatest outer ∧
      Listing (nest around own) (inner.map left.attach) := by
  obtain ⟨core, left, padded, whole, same⟩ := listing.asParent
  have parts := listingToo.split_eq
  have filled : split own ≠ [] := by
    intro none
    rw [none] at parts
    cases parts
    exact listingToo.ne_nil.2 rfl
  refine ⟨left, same, listing_join ?_ (by simpa using filled)⟩
  rw [List.forall₂_map_left_iff, List.forall₂_map_right_iff]
  exact parts.imp fun part selector wholeToo => item_nestPart padded whole wholeToo

/-- The selector of a rule completed by those around it, outermost first. -/
def nestAll : List Text → Text
  | [] => []
  | text :: texts => texts.foldl nest text

/-- The sum of specificities. -/
def sumOf (values : List Specificity) : Specificity := values.foldl Specificity.add .zero

/-- The text lists selectors, the most specific of which has the given value. -/
def Weighs (text : Text) (value : Specificity) : Prop :=
  ∃ selectors, Listing text selectors ∧ greatest selectors = value

theorem Weighs.nest {around own : Text} {outer inner : Specificity} (weighs : Weighs around outer)
    (weighsToo : Weighs own inner) : Weighs (nest around own) (outer.add inner) := by
  obtain ⟨selectors, listing, rfl⟩ := weighs
  obtain ⟨selectorsToo, listingToo, rfl⟩ := weighsToo
  obtain ⟨left, same, nested⟩ := listing_nest listing listingToo
  exact ⟨_, nested, by rw [greatest_attach left listingToo.ne_nil.2, same]⟩

theorem Weighs.foldl {texts : List Text} {values : List Specificity}
    (all : List.Forall₂ Weighs texts values) {text : Text} {value : Specificity}
    (weighs : Weighs text value) :
    Weighs (texts.foldl Selector.nest text) (values.foldl Specificity.add value) := by
  induction all generalizing text value with
  | nil => exact weighs
  | cons own _ ih => exact ih (weighs.nest own)

/-- The specificity of a completed selector is the sum over all rules. -/
theorem weighs_nestAll {texts : List Text} {values : List Specificity}
    (all : List.Forall₂ Weighs texts values) (filled : texts ≠ []) :
    Weighs (nestAll texts) (sumOf values) := by
  cases all with
  | nil => exact absurd rfl filled
  | cons first others =>
    rw [sumOf, List.foldl_cons, Specificity.zero_add]
    exact first.foldl others

/-- A list of plain selectors, none of which ends in a pseudo-element. -/
structure IsPlain (text : Text) : Prop where
  filled : text ≠ []
  plain : Scope.IsPlainList text
  goesOn : ∀ selectors, parse text = .ok selectors → ∀ s ∈ selectors, s.endsInPseudoElement = false

/-- A plain list that has a specificity is a listing of that specificity. -/
theorem IsPlain.weighs {text : Text} {value : Specificity} (plain : IsPlain text)
    (accepted : specificity text = .ok value) : Weighs text value := by
  rw [specificity, if_neg plain.filled] at accepted
  cases read : parse text with
  | error mistake => rw [read] at accepted; cases accepted
  | ok selectors =>
    rw [read] at accepted
    exact ⟨selectors, listing_of_parse plain.plain read (plain.goesOn selectors read),
      Except.ok.inj accepted⟩

theorem weighs_of_plain {texts : List Text} {values : List Specificity}
    (plain : ∀ text ∈ texts, IsPlain text)
    (accepted : List.Forall₂ (fun text value => specificity text = .ok value) texts values) :
    List.Forall₂ Weighs texts values := by
  induction accepted with
  | nil => exact .nil
  | cons own _ ih =>
    obtain ⟨first, others⟩ := List.forall_mem_cons.1 plain
    exact .cons (first.weighs own) (ih others)

theorem Weighs.specificity_eq {text : Text} {value : Specificity} (weighs : Weighs text value) :
    specificity text = .ok value := by
  obtain ⟨selectors, listing, rfl⟩ := weighs
  exact listing.specificity_eq

end StyleScore.Selector
