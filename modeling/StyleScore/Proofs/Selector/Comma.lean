import StyleScore.Proofs.Selector.Listing

/-!
Lists of selectors beside each other, with a comma between them. Each reader comes to the comma as
it comes to the end, with one exception: behind the bar of a namespace a comma is a mistake like any
other, and the end is not (`AtComma`). Inside brackets there is no exception, since a comma behind
them does not reach into them (`IsStuck`). So the first list decides whether the second is read at
all (`beside_list`).
-/
namespace StyleScore.Selector

/-- Brackets whose content ends behind the bar of a namespace: those of an attribute or of a logical
pseudo-class. -/
inductive Piece.IsStuck : Piece → Prop where
  | attribute {position : Position} {content : List Component}
      {members : Except Mistake (List Complex)}
      (ends : attributeSelector content = .error .unfinished) :
      IsStuck ⟨.block position (.block .square) content, members⟩
  | logical {position : Position} {name : Text} {content : List Component} {function : Logical}
      (known : Logical.ofName? (Text.asciiLower name) = some function) :
      IsStuck ⟨.block position (.function name) content, .error .unfinished⟩

/-- A comma with anything behind it. -/
def IsComma (more : List Piece) : Prop :=
  ∃ position members rest, more = ⟨.leaf position (.literal [',']), members⟩ :: rest

/-- How pieces are read at the end, and with more behind them that starts with a comma. -/
inductive AtComma (more : List Piece) {α : Type} (ps : List Piece) :
    Reading α → Reading α → Prop where
  | ok {value : α} {used left : List Piece} (split : ps = used ++ left)
      (free : ∀ p ∈ used, ¬p.IsStuck) :
      AtComma more ps (.ok (value, left)) (.ok (value, left ++ more))
  | broken {cause cause' : Cause} {found found' : Option Component} {left other : List Piece} :
      AtComma more ps (.error (.broken cause found, left)) (.error (.broken cause' found', other))
  | stuck {p : Piece} {left other : List Piece} (member : p ∈ ps) (stuck : p.IsStuck) :
      AtComma more ps (.error (.unfinished, left)) (.error (.unfinished, other))
  | ended {cause : Cause} {found : Option Component} {left other : List Piece}
      (free : ∀ p ∈ ps, ¬p.IsStuck) :
      AtComma more ps (.error (.unfinished, left)) (.error (.broken cause found, other))

variable {more ps used left : List Piece} {p : Piece} {α β : Type}

theorem not_isStuck_leaf {position : Position} {token : Token}
    {members : Except Mistake (List Complex)} :
    ¬Piece.IsStuck ⟨.leaf position token, members⟩ := by
  rintro ⟨⟩

theorem not_isStuck_of_isSign {c : Char} (sign : p.isSign c = true) : ¬p.IsStuck := by
  obtain ⟨component, members⟩ := p
  obtain ⟨position, rfl⟩ := exists_literal (of_decide_eq_true sign)
  exact not_isStuck_leaf

theorem not_isStuck_of_isBlankOrComment (skipped : p.isBlankOrComment = true) : ¬p.IsStuck := by
  rintro (_ | _) <;> cases skipped

namespace AtComma

variable {value : α} {first second : Reading α}

theorem one (free : ¬p.IsStuck) :
    AtComma more (p :: ps) (.ok (value, ps)) (.ok (value, ps ++ more)) := by
  have split : p :: ps = [p] ++ ps := rfl
  exact .ok split (List.forall_mem_singleton.2 free)

theorem none : AtComma more ps (.ok (value, ps)) (.ok (value, ps ++ more)) :=
  .ok (List.nil_append ps).symm (List.forall_mem_nil _)

theorem map (atComma : AtComma more ps first second) (f : α → β) : AtComma more ps
    (first.map fun (value, left) => (f value, left)) (second.map fun (value, left) => (f value,
      left)) := by
  cases atComma with
  | ok split free => exact .ok split free
  | broken => exact .broken
  | stuck member stuck => exact .stuck member stuck
  | ended free => exact .ended free

/-- Reading goes on behind pieces that were not stuck. -/
theorem behind (atComma : AtComma more left first second) (split : ps = used ++ left)
    (free : ∀ p ∈ used, ¬p.IsStuck) : AtComma more ps first second := by
  rw [split]
  cases atComma with
  | ok splitToo freeToo =>
    rw [splitToo, ← List.append_assoc]
    exact .ok rfl (List.forall_mem_append.2 ⟨free, freeToo⟩)
  | broken => exact .broken
  | stuck member stuck => exact .stuck (List.mem_append_right used member) stuck
  | ended freeToo => exact .ended (List.forall_mem_append.2 ⟨free, freeToo⟩)

theorem behind_one (atComma : AtComma more ps first second) (free : ¬p.IsStuck) :
    AtComma more (p :: ps) first second := by
  have split : p :: ps = [p] ++ ps := rfl
  exact atComma.behind split (List.forall_mem_singleton.2 free)

/-- Either both readings fail, and whatever is read in their place fails with them, or they go on
from the same place. -/
theorem fails_or_goes_on (atComma : AtComma more ps first second) :
    (∃ failure other, first = .error failure ∧ second = .error other ∧
      ∀ {β : Type}, AtComma more ps (.error failure : Reading β) (.error other)) ∨
    ∃ value used left, first = .ok (value, left) ∧ second = .ok (value, left ++ more) ∧
      ps = used ++ left ∧
      ∀ p ∈ used, ¬p.IsStuck := by
  cases atComma with
  | ok split free => exact .inr ⟨_, _, _, rfl, rfl, split, free⟩
  | broken => exact .inl ⟨_, _, rfl, rfl, .broken⟩
  | stuck member stuck => exact .inl ⟨_, _, rfl, rfl, .stuck member stuck⟩
  | ended free => exact .inl ⟨_, _, rfl, rfl, .ended free⟩

end AtComma

/-! ### Names -/

theorem atComma_localName (comma : IsComma more) (inAttribute : Bool) (ps : List Piece) :
    AtComma more ps (localName inAttribute ps) (localName inAttribute (ps ++ more)) := by
  cases ps with
  | nil =>
    obtain ⟨position, members, rest, rfl⟩ := comma
    exact .ended (List.forall_mem_nil _)
  | cons p ps =>
    obtain ⟨component, members⟩ := p
    cases component with
    | leaf position token =>
      cases token with
      | ident name => exact .one not_isStuck_leaf
      | literal text =>
        by_cases star : text = ['*']
        · subst star
          cases inAttribute with
          | true => exact .broken
          | false => exact .one not_isStuck_leaf
        · rw [List.cons_append, localName_literal star, localName_literal star]
          exact .broken
      | _ => exact .broken
    | block => exact .broken

theorem startsWithBar_comma (comma : IsComma more) (ps : List Piece) :
    startsWithBar (ps ++ more) = startsWithBar ps := by
  obtain ⟨position, members, rest, rfl⟩ := comma
  cases ps with
  | nil => rfl
  | cons p ps => rfl

theorem atComma_qualifiedName (comma : IsComma more) (inAttribute : Bool) (ps : List Piece) :
    AtComma more ps (qualifiedName inAttribute ps) (qualifiedName inAttribute (ps ++ more)) := by
  cases ps with
  | nil =>
    obtain ⟨position, members, rest, rfl⟩ := comma
    exact .none
  | cons p ps =>
    have bar := startsWithBar_comma comma ps
    obtain ⟨component, members⟩ := p
    cases component with
    | leaf position token =>
      have free := @not_isStuck_leaf position token members
      cases token with
      | ident name =>
        simp only [qualifiedName, List.cons_append, bar]
        split
        · exact .broken
        · exact .one free
      | literal text =>
        by_cases star : text = ['*']
        · subst star
          simp only [qualifiedName, List.cons_append, bar]
          split
          · next barred =>
            cases ps with
            | nil => cases barred
            | cons q ps =>
              have further := (atComma_localName comma inAttribute ps).map some
              exact (further.behind_one (not_isStuck_of_isSign barred)).behind_one free
          · cases inAttribute with
            | true => exact .broken
            | false => exact .one free
        · by_cases stroke : text = ['|']
          · subst stroke
            exact ((atComma_localName comma inAttribute ps).map some).behind_one free
          · rw [List.cons_append, qualifiedName_literal star stroke,
              qualifiedName_literal star stroke]
            exact .none
      | _ => exact .none
    | block => exact .none

/-! ### Simple selectors -/

theorem atComma_pseudoElement (comma : IsComma more) (ps : List Piece) :
    AtComma more ps (pseudoElement ps) (pseudoElement (ps ++ more)) := by
  cases ps with
  | nil =>
    obtain ⟨position, members, rest, rfl⟩ := comma
    exact .broken
  | cons p ps =>
    obtain ⟨component, members⟩ := p
    cases component with
    | leaf position token =>
      cases token with
      | ident name =>
        simp only [pseudoElement, List.cons_append]
        split
        · exact .one not_isStuck_leaf
        · exact .broken
      | _ => exact .broken
    | block => exact .broken

theorem atComma_pseudo (comma : IsComma more) (ps : List Piece) :
    AtComma more ps (pseudo ps) (pseudo (ps ++ more)) := by
  cases ps with
  | nil =>
    obtain ⟨position, members, rest, rfl⟩ := comma
    exact .broken
  | cons p ps =>
    obtain ⟨component, members⟩ := p
    cases component with
    | leaf position token =>
      have free := @not_isStuck_leaf position token members
      cases token with
      | ident name =>
        simp only [pseudo, List.cons_append]
        split
        · exact .one free
        · exact .one free
      | literal text =>
        by_cases colon : text = [':']
        · subst colon
          exact (atComma_pseudoElement comma ps).behind_one free
        · rw [List.cons_append, pseudo_literal colon, pseudo_literal colon]
          exact .broken
      | _ => exact .broken
    | block position opener content =>
      cases opener with
      | block bracket => exact .broken
      | function name =>
        simp only [pseudo, List.cons_append]
        cases known : Logical.ofName? (Text.asciiLower name) with
        | none =>
          refine .one ?_
          rintro (_ | logical)
          cases known.symm.trans logical
        | some function =>
          cases members with
          | ok members =>
            refine .one ?_
            rintro ⟨⟩
          | error mistake =>
            cases mistake with
            | broken cause found => exact .broken
            | unfinished => exact .stuck List.mem_cons_self (.logical known)

theorem atComma_classSelector (comma : IsComma more) (ps : List Piece) :
    AtComma more ps (classSelector ps) (classSelector (ps ++ more)) := by
  cases ps with
  | nil =>
    obtain ⟨position, members, rest, rfl⟩ := comma
    exact .broken
  | cons p ps =>
    obtain ⟨component, members⟩ := p
    cases component with
    | leaf position token =>
      cases token with
      | ident name => exact .one not_isStuck_leaf
      | _ => exact .broken
    | block => exact .broken

theorem atComma_simple (comma : IsComma more) (ps : List Piece) :
    AtComma more ps (simple ps) (simple (ps ++ more)) := by
  cases ps with
  | nil =>
    obtain ⟨position, members, rest, rfl⟩ := comma
    exact .none
  | cons p ps =>
    obtain ⟨component, members⟩ := p
    cases component with
    | leaf position token =>
      have free := @not_isStuck_leaf position token members
      cases token with
      | hash name isIdent =>
        cases isIdent with
        | true => exact .one free
        | false => exact .none
      | literal text =>
        by_cases dot : text = ['.']
        · subst dot
          exact (atComma_classSelector comma ps).behind_one free
        · by_cases colon : text = [':']
          · subst colon
            exact (atComma_pseudo comma ps).behind_one free
          · rw [List.cons_append, simple_literal dot colon, simple_literal dot colon]
            exact .none
      | _ => exact .none
    | block position opener content =>
      cases opener with
      | function name => exact .none
      | block bracket =>
        cases bracket with
        | round => exact .none
        | curly => exact .none
        | square =>
          simp only [simple, List.cons_append]
          cases test : attributeSelector content with
          | ok part =>
            refine .one ?_
            rintro (ends | _)
            cases test.symm.trans ends
          | error mistake =>
            cases mistake with
            | broken cause found => exact .broken
            | unfinished => exact .stuck List.mem_cons_self (.attribute test)

theorem atComma_simples (comma : IsComma more) (ps : List Piece) :
    AtComma more ps (simples ps) (simples (ps ++ more)) := by
  induction length : ps.length using Nat.strongRecOn generalizing ps with
  | ind n ih =>
    rw [simples_eq ps, simples_eq (ps ++ more)]
    rcases (atComma_simple comma ps).fails_or_goes_on with
      ⟨failure, other, atEnd, atComma, failed⟩ | ⟨part, used, left, atEnd, atComma, split, free⟩
    · rw [atEnd, atComma]
      exact failed
    · rw [atEnd, atComma]
      cases part with
      | none => exact .ok split free
      | some part =>
        have shorter := (length_left_simple ps).2 part left atEnd
        dsimp only
        split
        · exact .ok split free
        · exact ((ih left.length (length ▸ shorter) left rfl).map (part :: ·)).behind split free

/-! ### Compound selectors and combinators -/

theorem dropWhile_comma {test : Piece → Bool} (kept : ∀ p ∈ more.head?, test p = false)
    (ps : List Piece) :
    (ps ++ more).dropWhile test = ps.dropWhile test ++ more := by
  have whole : more.dropWhile test = more := by
    cases more with
    | nil => rfl
    | cons p rest => exact List.dropWhile_cons_of_neg (by simp [kept p rfl])
  rw [List.dropWhile_append, whole]
  split
  · next none => rw [List.isEmpty_iff.1 none, List.nil_append]
  · rfl

theorem IsComma.not_isBlankOrComment (comma : IsComma more) :
    ∀ p ∈ more.head?, p.isBlankOrComment = false := by
  obtain ⟨position, members, rest, rfl⟩ := comma
  rintro p ⟨⟩
  rfl

theorem IsComma.not_isBlank (comma : IsComma more) : ∀ p ∈ more.head?, p.isBlank = false := by
  obtain ⟨position, members, rest, rfl⟩ := comma
  rintro p ⟨⟩
  rfl

theorem free_takeWhile (ps : List Piece) :
    ∀ p ∈ ps.takeWhile Piece.isBlankOrComment, ¬p.IsStuck := by
  intro p member
  exact not_isStuck_of_isBlankOrComment (List.mem_takeWhile_imp member)

theorem atComma_compoundAt (comma : IsComma more) (ps : List Piece) :
    AtComma more ps (compoundAt ps) (compoundAt (ps ++ more)) := by
  unfold compoundAt
  rcases (atComma_qualifiedName comma false ps).fails_or_goes_on with
    ⟨failure, other, atEnd, atComma, failed⟩ | ⟨name, used, left, atEnd, atComma, split, free⟩
  · rw [atEnd, atComma]
    exact failed
  · rw [atEnd, atComma]
    refine AtComma.behind ?_ split free
    dsimp only
    rcases (atComma_simples comma left).fails_or_goes_on with
      ⟨failure, other, atEnd, atComma, failed⟩ | ⟨parts, used, left, atEnd, atComma, split, free⟩
    · rw [atEnd, atComma]
      exact failed
    · rw [atEnd, atComma]
      dsimp only
      split
      · exact .broken
      · exact .ok split free

theorem atComma_compound (comma : IsComma more) (ps : List Piece) :
    AtComma more ps (compound ps) (compound (ps ++ more)) := by
  rw [compound_eq, compound_eq, dropWhile_comma comma.not_isBlank]
  refine (atComma_compoundAt comma _).behind List.takeWhile_append_dropWhile.symm ?_
  intro p member
  exact not_isStuck_of_isBlankOrComment
    (isBlankOrComment_of_isBlank (List.mem_takeWhile_imp member))

theorem not_isStuck_of_combinator {combinator : Combinator}
    (sign : combinator? p = some combinator) : ¬p.IsStuck := by
  unfold combinator? at sign
  split at sign
  · next child => exact not_isStuck_of_isSign child
  · split at sign
    · next adjacent => exact not_isStuck_of_isSign adjacent
    · split at sign
      · next sibling => exact not_isStuck_of_isSign sibling
      · cases sign

/-- Before a comma stands the combinator that stands before the end, and what is left goes on with
the comma. -/
theorem nextCombinator_comma (comma : IsComma more) (ps : List Piece) :
    ∃ combinator used left, nextCombinator ps = (combinator, left) ∧
      nextCombinator (ps ++ more) = (combinator, left ++ more) ∧ ps = used ++ left ∧
      ∀ p ∈ used, ¬p.IsStuck := by
  have whole := List.takeWhile_append_dropWhile (p := Piece.isBlankOrComment) (l := ps)
  have free := free_takeWhile ps
  unfold nextCombinator
  rw [dropWhile_comma comma.not_isBlankOrComment]
  cases start : ps.dropWhile Piece.isBlankOrComment with
  | nil =>
    rw [start] at whole
    obtain ⟨position, members, rest, rfl⟩ := comma
    exact ⟨none, _, [], rfl, rfl, whole.symm, free⟩
  | cons p tail =>
    have blanks : (ps ++ more).takeWhile Piece.isBlankOrComment =
        ps.takeWhile Piece.isBlankOrComment := by
      have shorter : (ps.takeWhile Piece.isBlankOrComment).length ≠ ps.length := by
        have lengths := congrArg List.length whole
        rw [start, List.length_append, List.length_cons] at lengths
        omega
      rw [List.takeWhile_append, if_neg shorter]
    rw [start] at whole
    rw [blanks, List.cons_append]
    dsimp only
    split
    · exact ⟨none, _, _, rfl, rfl, whole.symm, free⟩
    · cases sign : combinator? p with
      | some combinator =>
        refine ⟨combinator, ps.takeWhile Piece.isBlankOrComment ++ [p], tail, rfl, rfl, ?_, ?_⟩
        · rw [List.append_assoc]
          exact whole.symm
        · exact List.forall_mem_append.2 ⟨free,
            List.forall_mem_singleton.2 (not_isStuck_of_combinator sign)⟩
      | none =>
        dsimp only
        split
        · exact ⟨_, _, _, rfl, rfl, whole.symm, free⟩
        · exact ⟨_, _, _, rfl, rfl, whole.symm, free⟩

theorem atComma_complexFrom (comma : IsComma more) (base : Complex) (ps : List Piece) :
    AtComma more ps (complexFrom base ps) (complexFrom base (ps ++ more)) := by
  induction length : ps.length using Nat.strongRecOn generalizing base ps with
  | ind n ih =>
    rw [complexFrom_eq base ps, complexFrom_eq base (ps ++ more)]
    split
    · rw [dropWhile_comma comma.not_isBlankOrComment]
      exact .ok List.takeWhile_append_dropWhile.symm (free_takeWhile ps)
    · obtain ⟨combinator, used, left, atEnd, atComma, split, free⟩ := nextCombinator_comma comma ps
      have bound := (length_nextCombinator ps).2
      rw [atEnd] at bound ⊢
      rw [atComma]
      cases combinator with
      | none => exact .ok split free
      | some combinator =>
        refine AtComma.behind ?_ split free
        dsimp only
        rcases (atComma_compound comma left).fails_or_goes_on with
          ⟨failure, other, atEnd, atComma, failed⟩ | ⟨parts, used, after, atEnd, atComma,
            split, free⟩
        · rw [atEnd, atComma]
          exact failed
        · have less := length_left_compound_le left
          rw [atEnd] at less ⊢
          rw [atComma]
          have shorter : after.length < n := by
            have := bound (by simp)
            simp only [Reading.left] at less this
            omega
          exact (ih after.length shorter (.joined base combinator parts) after rfl).behind split
            free

/-! ### Lists -/

theorem atComma_complex (comma : IsComma more) (ps : List Piece) :
    AtComma more ps (complex false ps) (complex false (ps ++ more)) := by
  rw [complex_eq, complex_eq, dropWhile_comma comma.not_isBlankOrComment]
  refine AtComma.behind ?_ List.takeWhile_append_dropWhile.symm (free_takeWhile ps)
  rcases (atComma_compound comma (ps.dropWhile Piece.isBlankOrComment)).fails_or_goes_on with
    ⟨failure, other, atEnd, atComma, failed⟩ | ⟨parts, used, left, atEnd, atComma, split, free⟩
  · rw [atEnd, atComma]
    exact failed
  · rw [atEnd, atComma]
    exact (atComma_complexFrom comma (.compound parts) left).behind split free

/-- The outcome for a list, for another one, and for both with a comma between them. The second list
is not reached when the first fails. The first fails in the same way as before, except that a
namespace it ends in, outside all brackets, is now followed by something. -/
inductive Beside (ps : List Piece) (further : Except Mistake (List Complex)) :
    Except Mistake (List Complex) → Except Mistake (List Complex) → Prop where
  | ok (selectors : List Complex) : Beside ps further (.ok selectors) (further.map (selectors ++ ·))
  | broken {cause cause' : Cause} {found found' : Option Component} :
      Beside ps further (.error (.broken cause found)) (.error (.broken cause' found'))
  | stuck {p : Piece} (member : p ∈ ps) (stuck : p.IsStuck) :
      Beside ps further (.error .unfinished) (.error .unfinished)
  | ended {cause : Cause} {found : Option Component} (free : ∀ p ∈ ps, ¬p.IsStuck) :
      Beside ps further (.error .unfinished) (.error (.broken cause found))

variable {further first second : Except Mistake (List Complex)}

theorem Beside.cons (beside : Beside ps further first second) (selector : Complex) :
    Beside ps further (first.map (selector :: ·)) (second.map (selector :: ·)) := by
  cases beside with
  | ok selectors =>
    have joined : (further.map (selectors ++ ·)).map (selector :: ·) =
        further.map (selector :: selectors ++ ·) := by
      cases further <;> rfl
    rw [joined]
    exact .ok (selector :: selectors)
  | broken => exact .broken
  | stuck member stuck => exact .stuck member stuck
  | ended free => exact .ended free

theorem Beside.behind (beside : Beside left further first second) (split : ps = used ++ left)
    (free : ∀ p ∈ used, ¬p.IsStuck) : Beside ps further first second := by
  rw [split]
  cases beside with
  | ok selectors => exact .ok selectors
  | broken => exact .broken
  | stuck member stuck => exact .stuck (List.mem_append_right used member) stuck
  | ended freeToo => exact .ended (List.forall_mem_append.2 ⟨free, freeToo⟩)

theorem isComma_of_isSign {comma : Piece} (sign : comma.isSign ',' = true) (rest : List Piece) :
    IsComma (comma :: rest) := by
  obtain ⟨component, members⟩ := comma
  obtain ⟨position, rfl⟩ := exists_literal (of_decide_eq_true sign)
  exact ⟨position, members, rest, rfl⟩

/-- A list stands beside another if what is left of it after its first selector does. -/
theorem beside_list_of_members {comma : Piece} (sign : comma.isSign ',' = true) {ps qs : List Piece}
    (others : ∀ left : List Piece, left.length ≤ ps.length →
      Beside left (list false false qs) (members false false left) (members false false (left ++
        comma :: qs))) :
    Beside ps (list false false qs) (list false false ps) (list false false (ps ++
      comma :: qs)) := by
  have less := length_left_complex_le false ps
  have first := atComma_complex (isComma_of_isSign sign qs) ps
  unfold list at others ⊢
  generalize complex false ps = reading, complex false (ps ++ comma :: qs) = reading' at first less
  cases first with
  | @ok selector used left split free => exact ((others left less).cons selector).behind split free
  | broken => exact .broken
  | stuck member stuck => exact .stuck member stuck
  | ended free => exact .ended free

theorem beside_members {comma : Piece} (sign : comma.isSign ',' = true) (ps qs : List Piece) :
    Beside ps (list false false qs) (members false false ps) (members false false (ps ++
      comma :: qs)) := by
  induction length : ps.length using Nat.strongRecOn generalizing ps with
  | ind n ih =>
    cases ps with
    | nil =>
      have none : members false false [] = .ok [] := by rw [members]
      rw [List.nil_append, members_comma sign, none]
      generalize list false false qs = further
      have same : further.map ([] ++ ·) = further := by cases further <;> rfl
      have ok : Beside [] further (.ok []) (further.map ([] ++ ·)) := .ok []
      rwa [same] at ok
    | cons p ps =>
      rw [List.cons_append]
      by_cases comma' : p.isSign ',' = true
      · have split : p :: ps = [p] ++ ps := rfl
        have free : ∀ q ∈ [p], ¬q.IsStuck :=
          List.forall_mem_singleton.2 (not_isStuck_of_isSign comma')
        rw [members_comma comma', members_comma comma']
        refine Beside.behind (beside_list_of_members sign fun left fewer => ?_) split free
        exact ih left.length (length ▸ Nat.lt_succ_of_le fewer) left rfl
      · rw [members_of_unlisted (by simpa using comma'),
          members_of_unlisted (by simpa using comma')]
        exact .broken

/-- How two lists with a comma between them are read. -/
theorem beside_list {comma : Piece} (sign : comma.isSign ',' = true) (ps qs : List Piece) :
    Beside ps (list false false qs) (list false false ps) (list false false (ps ++ comma :: qs)) :=
  beside_list_of_members sign fun left _ => beside_members sign left qs

end StyleScore.Selector
