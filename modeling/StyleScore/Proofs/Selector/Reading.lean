import StyleScore.Proofs.Component.Bare
import StyleScore.Selector.Parse

/-!
How a selector is read does not depend on the places of its pieces, nor on what follows it when that
starts with a blank or a comma. Both are one statement about each reader: pieces that are the same
up to their places and go on with `more` are read to the same value, and what is left goes on with
`more` too (`Agree`). With nothing more, failures leave the same pieces as well, since a forgiving
list goes on from there.
-/
namespace StyleScore.Selector

/-- The same value twice, or two failures of which either both or none are at the end of a
namespace. -/
inductive SameOutcome {α : Type} : Except Mistake α → Except Mistake α → Prop where
  | ok (value : α) : SameOutcome (.ok value) (.ok value)
  | error {first second : Mistake} (kind : first = .unfinished ↔ second = .unfinished) :
      SameOutcome (.error first) (.error second)

theorem SameOutcome.refl {α : Type} (outcome : Except Mistake α) : SameOutcome outcome outcome := by
  cases outcome with
  | ok value => exact .ok value
  | error mistake => exact .error Iff.rfl

theorem SameOutcome.map {α β : Type} {first second : Except Mistake α}
    (same : SameOutcome first second) (f : α → β) : SameOutcome (first.map f) (second.map f) := by
  cases same with
  | ok value => exact .ok (f value)
  | error kind => exact .error kind

/-- Pieces that are the same up to their places. -/
inductive Piece.Same : Piece → Piece → Prop where
  | leaf (first second : Position) (token : Token)
      (members others : Except Mistake (List Complex)) :
      Piece.Same ⟨.leaf first token, members⟩ ⟨.leaf second token, others⟩
  | block (first second : Position) (opener : Opener) {content other : List Component}
      {members others : Except Mistake (List Complex)}
      (inside : content.map Component.bare = other.map Component.bare)
      (read : SameOutcome members others) :
      Piece.Same ⟨.block first opener content, members⟩ ⟨.block second opener other, others⟩

theorem Piece.Same.refl (p : Piece) : p.Same p := by
  obtain ⟨component, members⟩ := p
  cases component with
  | leaf position token => exact .leaf position position token members members
  | block position opener content => exact .block position position opener rfl (.refl members)

theorem Piece.Same.kind_eq {p q : Piece} (same : p.Same q) :
    p.component.kind = q.component.kind := by
  cases same with
  | leaf first second token => cases token <;> rfl
  | block first second opener => cases opener <;> rfl

theorem Piece.Same.isBlank_eq {p q : Piece} (same : p.Same q) : p.isBlank = q.isBlank := by
  rw [Piece.isBlank, Piece.isBlank, Component.isBlank, Component.isBlank, same.kind_eq]

theorem Piece.Same.isBlankOrComment_eq {p q : Piece} (same : p.Same q) :
    p.isBlankOrComment = q.isBlankOrComment := by
  rw [Piece.isBlankOrComment, Piece.isBlankOrComment, Component.isBlankOrComment,
    Component.isBlankOrComment, same.kind_eq]

theorem Piece.Same.isSign_eq {p q : Piece} (same : p.Same q) (c : Char) :
    p.isSign c = q.isSign c := by
  rw [Piece.isSign, Piece.isSign, same.kind_eq]

theorem isBlankOrComment_of_isBlank {p : Piece} (blank : p.isBlank = true) :
    p.isBlankOrComment = true := by
  rw [Piece.isBlankOrComment, Component.isBlankOrComment, of_decide_eq_true blank]
  rfl

/-- The same pieces up to their places, and then more. Where anything follows, no comma stands
before it. -/
inductive Continues (more : List Piece) : List Piece → List Piece → Prop where
  | done : Continues more [] more
  | next {p q : Piece} {ps qs : List Piece} (same : p.Same q)
      (inner : more ≠ [] → p.isSign ',' = false) (rest : Continues more ps qs) :
      Continues more (p :: ps) (q :: qs)

theorem Continues.append {ps : List Piece} (inner : ∀ p ∈ ps, p.isSign ',' = false)
    (more : List Piece) :
    Continues more ps (ps ++ more) := by
  induction ps with
  | nil => exact .done
  | cons p ps ih =>
    obtain ⟨first, others⟩ := List.forall_mem_cons.1 inner
    exact .next (.refl p) (fun _ => first) (ih others)

/-- Readings of the same value, or failures; failures with nothing more leave the same. -/
inductive Agree (more : List Piece) {α : Type} : Reading α → Reading α → Prop where
  | ok {value : α} {left other : List Piece} (rest : Continues more left other) :
      Agree more (.ok (value, left)) (.ok (value, other))
  | error {first second : Mistake} {left other : List Piece}
      (rest : more = [] → (first = .unfinished ↔ second = .unfinished) ∧
        Continues more left other) :
      Agree more (.error (first, left)) (.error (second, other))

/-- Nothing, or a blank or a comma with anything behind it. -/
def Stops (more : List Piece) : Prop :=
  ∀ p ∈ more.head?, p.component.kind = .blank ∨ p.component.kind = .sign ','

theorem exists_literal {c : Component} {text : Text} (kind : c.kind = .literal text) :
    ∃ position, c = .leaf position (.literal text) := by
  cases c with
  | leaf position token => cases token <;> simp_all [Component.kind]
  | block position opener content => cases opener <;> cases kind

theorem exists_blank {c : Component} (kind : c.kind = .blank) :
    ∃ position text, c = .leaf position (.blank text) := by
  cases c with
  | leaf position token => cases token <;> simp_all [Component.kind]
  | block position opener content => cases opener <;> cases kind

theorem Stops.cases {more : List Piece} (stops : Stops more) :
    more = [] ∨ ∃ position token members rest, more = ⟨.leaf position token, members⟩ :: rest ∧
      ((∃ text, token = .blank text) ∨ token = .literal [',']) := by
  cases more with
  | nil => exact .inl rfl
  | cons p rest =>
    obtain ⟨component, members⟩ := p
    rcases stops _ rfl with blank | comma
    · obtain ⟨position, text, rfl⟩ := exists_blank blank
      exact .inr ⟨position, _, members, rest, rfl, .inl ⟨text, rfl⟩⟩
    · obtain ⟨position, rfl⟩ := exists_literal comma
      exact .inr ⟨position, _, members, rest, rfl, .inr rfl⟩

variable {more ps qs : List Piece}

theorem Agree.broken {α : Type} {cause : Cause} {found other : Option Piece}
    (rest : Continues more ps qs) :
    Agree more (broken cause found ps : Reading α) (broken cause other qs) :=
  .error fun _ => ⟨⟨nofun, nofun⟩, rest⟩

theorem Agree.map {α β : Type} {first second : Reading α} (agree : Agree more first second)
    (f : α → β) :
    Agree more (first.map fun (value, left) => (f value, left)) (second.map fun (value,
      left) => (f value, left)) := by
  cases agree with
  | ok rest => exact .ok rest
  | error rest => exact .error rest

/-- Either all is dropped and what follows decides, or dropping ends before it. -/
theorem Continues.dropWhile {test : Piece → Bool}
    (respects : ∀ p q : Piece, p.Same q → test p = test q) (continues : Continues more ps qs) :
    (ps.dropWhile test = [] ∧ qs.dropWhile test = more.dropWhile test) ∨
      (ps.dropWhile test ≠ [] ∧ Continues more (ps.dropWhile test) (qs.dropWhile test)) := by
  induction continues with
  | done => exact .inl ⟨rfl, rfl⟩
  | @next p q ps qs same inner rest ih =>
    rw [List.dropWhile_cons, List.dropWhile_cons, respects p q same]
    split
    · exact ih
    · exact .inr ⟨List.cons_ne_nil _ _, .next same inner rest⟩

theorem Continues.dropBlanks (continues : Continues [] ps qs) :
    Continues [] (ps.dropWhile Piece.isBlank) (qs.dropWhile Piece.isBlank) := by
  rcases continues.dropWhile fun _ _ same => same.isBlank_eq with ⟨first, second⟩ | ⟨-, rest⟩
  · rw [first, second]
    exact .done
  · exact rest

theorem Continues.drop_one (continues : Continues more ps qs) (filled : ps ≠ []) :
    Continues more (ps.drop 1) (qs.drop 1) := by
  cases continues with
  | done => exact absurd rfl filled
  | next same inner rest => exact rest

theorem ne_nil_of_startsWithBar (bar : startsWithBar ps = true) : ps ≠ [] := by
  rintro rfl
  cases bar

theorem startsWithBar_eq (stops : Stops more) (continues : Continues more ps qs) :
    startsWithBar ps = startsWithBar qs := by
  cases continues with
  | done =>
    rcases stops.cases with rfl | ⟨position, token, members, rest, rfl, ⟨text, rfl⟩ | rfl⟩ <;> rfl
  | next same inner rest => exact same.isSign_eq '|'

/-! ### Signs that say nothing to a reader -/

section Literal

variable {text : Text} {position : Position} {members : Except Mistake (List Complex)}
    {rest : List Piece}
  {inAttribute : Bool}

theorem localName_literal (star : text ≠ ['*']) :
    localName inAttribute (⟨.leaf position (.literal text), members⟩ :: rest) =
      broken .noLocalName (some ⟨.leaf position (.literal text), members⟩) rest := by
  simp [localName, star]

theorem qualifiedName_literal (star : text ≠ ['*']) (stroke : text ≠ ['|']) :
    qualifiedName inAttribute (⟨.leaf position (.literal text), members⟩ :: rest) =
      .ok (none, ⟨.leaf position (.literal text), members⟩ :: rest) := by
  simp [qualifiedName, star, stroke]

theorem pseudo_literal (colon : text ≠ [':']) :
    pseudo (⟨.leaf position (.literal text), members⟩ :: rest) =
      broken .noPseudoClass (some ⟨.leaf position (.literal text), members⟩) rest := by
  simp [pseudo, colon]

theorem simple_literal (dot : text ≠ ['.']) (colon : text ≠ [':']) :
    simple (⟨.leaf position (.literal text), members⟩ :: rest) =
      .ok (none, ⟨.leaf position (.literal text), members⟩ :: rest) := by
  simp [simple, dot, colon]

end Literal

/-! ### Names -/

theorem agree_localName (stops : Stops more) (inAttribute : Bool)
    (continues : Continues more ps qs) :
    Agree more (localName inAttribute ps) (localName inAttribute qs) := by
  cases continues with
  | done =>
    rcases stops.cases with rfl | ⟨position, token, members, rest, rfl, ⟨text, rfl⟩ | rfl⟩
    · exact .error fun _ => ⟨Iff.rfl, .done⟩
    · exact .error nofun
    · exact .error nofun
  | next same inner rest =>
    cases same with
    | leaf first second token =>
      cases token with
      | ident name => exact .ok rest
      | literal text =>
        by_cases star : text = ['*']
        · subst star
          cases inAttribute with
          | true => exact .broken rest
          | false => exact .ok rest
        · rw [localName_literal star, localName_literal star]
          exact .broken rest
      | _ => exact .broken rest
    | block => exact .broken rest

theorem agree_qualifiedName (stops : Stops more) (inAttribute : Bool)
    (continues : Continues more ps qs) :
    Agree more (qualifiedName inAttribute ps) (qualifiedName inAttribute qs) := by
  cases continues with
  | done =>
    rcases stops.cases with rfl | ⟨position, token, members, rest, rfl, ⟨text, rfl⟩ | rfl⟩
    · exact .ok .done
    · exact .ok .done
    · exact .ok .done
  | next same inner rest =>
    have bar := startsWithBar_eq stops rest
    cases same with
    | leaf first second token members others =>
      have whole := Continues.next (.leaf first second token members others) inner rest
      cases token with
      | ident name =>
        simp only [qualifiedName, bar]
        split
        · next barred => exact .broken (rest.drop_one (ne_nil_of_startsWithBar (bar.trans barred)))
        · exact .ok rest
      | literal text =>
        by_cases star : text = ['*']
        · subst star
          simp only [qualifiedName, bar]
          split
          · next barred =>
            have after := rest.drop_one (ne_nil_of_startsWithBar (bar.trans barred))
            exact (agree_localName stops inAttribute after).map some
          · cases inAttribute with
            | true => exact .broken rest
            | false => exact .ok rest
        · by_cases stroke : text = ['|']
          · subst stroke
            exact (agree_localName stops inAttribute rest).map some
          · rw [qualifiedName_literal star stroke, qualifiedName_literal star stroke]
            exact .ok whole
      | _ => exact .ok whole
    | block first second opener inside read =>
      exact .ok (.next (.block first second opener inside read) inner rest)

/-! ### Attribute tests -/

theorem Stops.nil : Stops [] := by
  rintro p ⟨⟩

theorem same_of_bare {c d : Component} {members others : Except Mistake (List Complex)}
    (bare : c.bare = d.bare) (read : SameOutcome members others) :
    Piece.Same ⟨c, members⟩ ⟨d, others⟩ := by
  cases c with
  | leaf first token =>
    cases d with
    | leaf second other =>
      rw [Component.bare_leaf, Component.bare_leaf] at bare
      obtain rfl := (Component.leaf.inj bare).2
      exact .leaf first second token members others
    | block second opener content =>
      rw [Component.bare_leaf, Component.bare_block] at bare
      cases bare
  | block first opener content =>
    cases d with
    | leaf second other =>
      rw [Component.bare_leaf, Component.bare_block] at bare
      cases bare
    | block second other inner =>
      rw [Component.bare_block, Component.bare_block] at bare
      obtain ⟨-, rfl, inside⟩ := Component.block.inj bare
      exact .block first second opener inside read

theorem continues_plain {content other : List Component}
    (inside : content.map Component.bare = other.map Component.bare) :
    Continues [] (content.map Piece.plain) (other.map Piece.plain) := by
  induction content generalizing other with
  | nil =>
    cases other with
    | nil => exact .done
    | cons d other => cases inside
  | cons c content ih =>
    cases other with
    | nil => cases inside
    | cons d other =>
      obtain ⟨first, rest⟩ := List.cons.inj inside
      exact .next (same_of_bare first (.ok [])) (absurd rfl) (ih rest)

theorem sameOutcome_attributeEnd (continues : Continues [] ps qs) :
    SameOutcome (attributeEnd ps) (attributeEnd qs) := by
  have solid := continues.dropBlanks
  unfold attributeEnd
  generalize ps.dropWhile Piece.isBlank = first, qs.dropWhile Piece.isBlank = second at solid
  cases solid with
  | done => exact .ok ()
  | next same inner rest =>
    cases same with
    | leaf first second token =>
      cases token with
      | ident name =>
        dsimp only
        split
        · exact .ok ()
        · exact .error ⟨nofun, nofun⟩
      | _ => exact .error ⟨nofun, nofun⟩
    | block => exact .error ⟨nofun, nofun⟩

theorem sameOutcome_attributeValue (continues : Continues [] ps qs) :
    SameOutcome (attributeValue ps) (attributeValue qs) := by
  have solid := continues.dropBlanks
  unfold attributeValue
  generalize ps.dropWhile Piece.isBlank = first, qs.dropWhile Piece.isBlank = second at solid
  cases solid with
  | done => exact .error ⟨nofun, nofun⟩
  | next same inner rest =>
    cases same with
    | leaf first second token =>
      cases token with
      | ident name => exact sameOutcome_attributeEnd rest
      | string value closed => exact sameOutcome_attributeEnd rest
      | _ => exact .error ⟨nofun, nofun⟩
    | block => exact .error ⟨nofun, nofun⟩

theorem sameOutcome_attributeTest (continues : Continues [] ps qs) :
    SameOutcome (attributeTest ps) (attributeTest qs) := by
  have solid := continues.dropBlanks
  unfold attributeTest
  generalize ps.dropWhile Piece.isBlank = first, qs.dropWhile Piece.isBlank = second at solid
  cases solid with
  | done => exact .ok ()
  | next same inner rest =>
    cases same with
    | leaf first second token =>
      cases token with
      | literal text =>
        dsimp only
        split
        · exact sameOutcome_attributeValue rest
        · exact .error ⟨nofun, nofun⟩
      | _ => exact .error ⟨nofun, nofun⟩
    | block => exact .error ⟨nofun, nofun⟩

theorem sameOutcome_attributeSelector {content other : List Component}
    (inside : content.map Component.bare = other.map Component.bare) :
    SameOutcome (attributeSelector content) (attributeSelector other) := by
  have agree := agree_qualifiedName .nil true (continues_plain inside).dropBlanks
  unfold attributeSelector
  generalize qualifiedName true ((content.map Piece.plain).dropWhile Piece.isBlank) = first,
    qualifiedName true ((other.map Piece.plain).dropWhile Piece.isBlank) = second at agree
  cases agree with
  | error rest => exact .error (rest rfl).1
  | @ok name left left' rest =>
    cases name with
    | none => exact .error ⟨nofun, nofun⟩
    | some name =>
      cases name with
      | typeName name => exact (sameOutcome_attributeTest rest).map _
      | _ => exact .error ⟨nofun, nofun⟩

/-! ### Simple selectors -/

theorem agree_pseudoElement (stops : Stops more) (continues : Continues more ps qs) :
    Agree more (pseudoElement ps) (pseudoElement qs) := by
  cases continues with
  | done =>
    rcases stops.cases with rfl | ⟨position, token, members, rest, rfl, ⟨text, rfl⟩ | rfl⟩
    · exact .broken .done
    · exact .error nofun
    · exact .error nofun
  | next same inner rest =>
    cases same with
    | leaf first second token =>
      cases token with
      | ident name =>
        simp only [pseudoElement]
        split
        · exact .ok rest
        · exact .broken rest
      | _ => exact .broken rest
    | block => exact .broken rest

theorem agree_pseudo (stops : Stops more) (continues : Continues more ps qs) :
    Agree more (pseudo ps) (pseudo qs) := by
  cases continues with
  | done =>
    rcases stops.cases with rfl | ⟨position, token, members, rest, rfl, ⟨text, rfl⟩ | rfl⟩
    · exact .broken .done
    · exact .error nofun
    · exact .error nofun
  | next same inner rest =>
    cases same with
    | leaf first second token =>
      cases token with
      | ident name =>
        simp only [pseudo]
        split
        · exact .ok rest
        · exact .ok rest
      | literal text =>
        by_cases colon : text = [':']
        · subst colon
          exact agree_pseudoElement stops rest
        · rw [pseudo_literal colon, pseudo_literal colon]
          exact .broken rest
      | _ => exact .broken rest
    | block first second opener inside read =>
      cases opener with
      | block bracket => exact .broken rest
      | function name =>
        simp only [pseudo]
        cases Logical.ofName? (Text.asciiLower name) with
        | none => exact .ok rest
        | some function =>
          cases read with
          | ok members => exact .ok rest
          | error kind => exact .error fun _ => ⟨kind, rest⟩

theorem agree_classSelector (stops : Stops more) (continues : Continues more ps qs) :
    Agree more (classSelector ps) (classSelector qs) := by
  cases continues with
  | done =>
    rcases stops.cases with rfl | ⟨position, token, members, rest, rfl, ⟨text, rfl⟩ | rfl⟩
    · exact .broken .done
    · exact .error nofun
    · exact .error nofun
  | next same inner rest =>
    cases same with
    | leaf first second token =>
      cases token with
      | ident name => exact .ok rest
      | _ => exact .broken rest
    | block => exact .broken rest

theorem agree_simple (stops : Stops more) (continues : Continues more ps qs) :
    Agree more (simple ps) (simple qs) := by
  cases continues with
  | done =>
    rcases stops.cases with rfl | ⟨position, token, members, rest, rfl, ⟨text, rfl⟩ | rfl⟩
    · exact .ok .done
    · exact .ok .done
    · exact .ok .done
  | next same inner rest =>
    cases same with
    | leaf first second token members others =>
      have whole := Continues.next (.leaf first second token members others) inner rest
      cases token with
      | hash name isIdent =>
        cases isIdent with
        | true => exact .ok rest
        | false => exact .ok whole
      | literal text =>
        by_cases dot : text = ['.']
        · subst dot
          exact agree_classSelector stops rest
        · by_cases colon : text = [':']
          · subst colon
            exact agree_pseudo stops rest
          · rw [simple_literal dot colon, simple_literal dot colon]
            exact .ok whole
      | _ => exact .ok whole
    | @block first second opener content other members others inside read =>
      have whole := Continues.next (.block first second opener inside read) inner rest
      cases opener with
      | function name => exact .ok whole
      | block bracket =>
        cases bracket with
        | square =>
          have test := sameOutcome_attributeSelector inside
          simp only [simple]
          generalize attributeSelector content = outcome, attributeSelector other = outcome' at test
          cases test with
          | ok part => exact .ok rest
          | error kind => exact .error fun _ => ⟨kind, rest⟩
        | round => exact .ok whole
        | curly => exact .ok whole

theorem simples_eq (ps : List Piece) :
    simples ps =
      match simple ps with
      | .error failure => .error failure
      | .ok (none, rest) => .ok ([], rest)
      | .ok (some part, rest) =>
        if part.isPseudoElement then .ok ([part], rest)
        else (simples rest).map fun (parts, left) => (part :: parts, left) := by
  rw [simples]
  split <;> simp_all

theorem agree_simples (stops : Stops more) (continues : Continues more ps qs) :
    Agree more (simples ps) (simples qs) := by
  induction length : ps.length using Nat.strongRecOn generalizing ps qs with
  | ind n ih =>
    have agree := agree_simple stops continues
    have shorter := (length_left_simple ps).2
    rw [simples_eq ps, simples_eq qs]
    generalize simple ps = first, simple qs = second at agree shorter
    cases agree with
    | error rest => exact .error rest
    | @ok value left other rest =>
      cases value with
      | none => exact .ok rest
      | some part =>
        dsimp only
        split
        · exact .ok rest
        · exact (ih left.length (length ▸ shorter part left rfl) rest rfl).map (part :: ·)

/-! ### Compound selectors -/

/-- A compound selector with no blanks before it. -/
def compoundAt (ps : List Piece) : Reading (List Simple) :=
  match qualifiedName false ps with
  | .error failure => .error failure
  | .ok (name, rest) =>
    match simples rest with
    | .error failure => .error failure
    | .ok (parts, left) =>
      match name.toList ++ parts with
      | [] => broken .noCompound left.head? left
      | parts => .ok (parts, left)

theorem compound_eq (ps : List Piece) : compound ps = compoundAt (ps.dropWhile Piece.isBlank) := rfl

theorem compoundAt_nil : compoundAt [] = broken .noCompound none [] := by
  simp [compoundAt, qualifiedName, simples_eq, simple]

theorem agree_compoundAt (stops : Stops more) (continues : Continues more ps qs) :
    Agree more (compoundAt ps) (compoundAt qs) := by
  have named := agree_qualifiedName stops false continues
  unfold compoundAt
  generalize qualifiedName false ps = first, qualifiedName false qs = second at named
  cases named with
  | error rest => exact .error rest
  | @ok name left other rest =>
    have further := agree_simples stops rest
    dsimp only
    generalize simples left = first, simples other = second at further
    cases further with
    | error rest => exact .error rest
    | ok rest =>
      dsimp only
      split
      · exact .broken rest
      · exact .ok rest

/-- Only blanks stand before the end or the next comma. -/
def Closes (more : List Piece) : Prop :=
  ∀ p ∈ (more.dropWhile Piece.isBlank).head?, p.component.kind = .sign ','

/-- Compound selectors agree, unless only blanks are there and what follows is not the end. -/
theorem agree_compound (stops : Stops more) (continues : Continues more ps qs)
    (solid : ps.dropWhile Piece.isBlank ≠ [] ∨ Closes more) :
    Agree more (compound ps) (compound qs) := by
  rw [compound_eq, compound_eq]
  rcases continues.dropWhile fun _ _ same => same.isBlank_eq with ⟨first, second⟩ | ⟨-, rest⟩
  · have closes := solid.resolve_left (absurd first)
    have start : Continues (more.dropWhile Piece.isBlank) [] (more.dropWhile Piece.isBlank) := .done
    have agree := agree_compoundAt (fun p head => .inr (closes p head)) start
    rw [first, second]
    rw [compoundAt_nil] at agree ⊢
    generalize compoundAt (more.dropWhile Piece.isBlank) = reading at agree
    cases agree with
    | error rest =>
      refine .error fun empty => ?_
      subst empty
      exact rest rfl
  · exact agree_compoundAt stops rest

theorem dropWhile_ne_nil_of_compound {parts : List Simple} {left : List Piece}
    (success : compound ps = .ok (parts, left)) : ps.dropWhile Piece.isBlank ≠ [] := by
  intro nothing
  rw [compound_eq, nothing, compoundAt_nil] at success
  cases success

end StyleScore.Selector
