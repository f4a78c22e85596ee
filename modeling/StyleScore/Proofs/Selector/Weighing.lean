import StyleScore.Proofs.Component.Alike
import StyleScore.Proofs.Selector.Combining
import StyleScore.Selector.Specificity

/-!
What the weight of a selector does not depend on: the case of its names, the spelling of what is
read by its kind alone, and a blank at the end of the text. Every reader takes pieces that are alike
to results that are alike and leaves pieces that are alike (`ReadAlike`), also when it fails, since
a forgiving list goes on from there. So lists of selectors that are alike weigh the same
(`outcomesAlike_ofComponents`).
-/
namespace StyleScore.Selector

theorem Logical.ofName?_foreign (name : Text) (foreign : name.HasForeign) :
    Logical.ofName? name = none := by
  apply List.find?_eq_none.2
  intro l _ same
  have ascii : l.name.allAscii = true := by cases l <;> decide
  exact foreign.ne ascii (of_decide_eq_true same).symm

/-! ### Selectors of the same weight -/

inductive Simple.Alike : Simple → Simple → Prop where
  | universal : Alike .universal .universal
  | typeName (name other : Text) : Alike (.typeName name) (.typeName other)
  | idName (name other : Text) : Alike (.idName name) (.idName other)
  | className (name other : Text) : Alike (.className name) (.className other)
  | attributeName (name other : Text) : Alike (.attributeName name) (.attributeName other)
  | pseudoClass (name other : Text) : Alike (.pseudoClass name) (.pseudoClass other)
  | pseudoElement (name other : Text) : Alike (.pseudoElement name) (.pseudoElement other)
  | logical (function : Logical) {members others : List Complex}
      (weight : greatest members = greatest others) :
      Alike (.logical function members) (.logical function others)

structure Complex.Alike (selector other : Complex) : Prop where
  weight : selector.specificity = other.specificity
  ending : selector.endsInPseudoElement = other.endsInPseudoElement

theorem Simple.Alike.specificity_eq {part other : Simple} (alike : part.Alike other) :
    part.specificity = other.specificity := by
  cases alike with
  | logical function weight => cases function <;> simp only [Simple.specificity, weight]
  | _ => simp only [Simple.specificity]

theorem Simple.Alike.isPseudoElement_eq {part other : Simple} (alike : part.Alike other) :
    part.isPseudoElement = other.isPseudoElement := by
  cases alike <;> rfl

abbrev PartsAlike : List Simple → List Simple → Prop := List.Forall₂ Simple.Alike

theorem PartsAlike.sum_eq {parts others : List Simple} (alike : PartsAlike parts others) :
    sum parts = sum others := by
  induction alike with
  | nil => rfl
  | cons first _ ih => rw [sum, sum, first.specificity_eq, ih]

theorem PartsAlike.ending_eq {parts others : List Simple} (alike : PartsAlike parts others) :
    parts.getLast?.elim false Simple.isPseudoElement =
      others.getLast?.elim false Simple.isPseudoElement := by
  induction alike with
  | nil => rfl
  | cons first others ih =>
    cases others with
    | nil => exact first.isPseudoElement_eq
    | cons => simpa only [List.getLast?_cons_cons] using ih

theorem PartsAlike.compound {parts others : List Simple} (alike : PartsAlike parts others) :
    Complex.Alike (.compound parts) (.compound others) :=
  ⟨by simp only [Complex.specificity, alike.sum_eq], alike.ending_eq⟩

theorem Complex.Alike.joined {left other : Complex} (alike : left.Alike other)
    (combinator : Combinator) {parts others : List Simple} (parted : PartsAlike parts others) :
    Complex.Alike (.joined left combinator parts) (.joined other combinator others) :=
  ⟨by simp only [Complex.specificity, alike.weight, parted.sum_eq], parted.ending_eq⟩

abbrev ListsAlike : List Complex → List Complex → Prop := List.Forall₂ Complex.Alike

theorem ListsAlike.greatest_eq {selectors others : List Complex}
    (alike : ListsAlike selectors others) :
    greatest selectors = greatest others := by
  induction alike with
  | nil => rfl
  | cons first _ ih => rw [greatest, greatest, first.weight, ih]

/-- Selectors that end in a pseudo-element are left out on both sides. -/
theorem ListsAlike.filter {selectors others : List Complex} (alike : ListsAlike selectors others) :
    ListsAlike (selectors.filter fun s => !s.endsInPseudoElement)
      (others.filter fun s => !s.endsInPseudoElement) := by
  induction alike with
  | nil => exact .nil
  | cons first _ ih =>
    rw [List.filter_cons, List.filter_cons, first.ending]
    split
    · exact .cons first ih
    · exact ih

/-! ### Pieces -/

/-- Two results alike, or two failures of which either both or none are at the end of a
namespace. -/
inductive OutcomesAlike {α : Type} (Alike : α → α → Prop) :
    Except Mistake α → Except Mistake α → Prop where
  | ok {value other : α} (alike : Alike value other) : OutcomesAlike Alike (.ok value) (.ok other)
  | error {first second : Mistake} (kind : first = .unfinished ↔ second = .unfinished) :
      OutcomesAlike Alike (.error first) (.error second)

theorem OutcomesAlike.broken {α : Type} {Alike : α → α → Prop} {cause other : Cause}
    {found second : Option Component} :
    OutcomesAlike Alike (.error (.broken cause found)) (.error (.broken other second)) :=
  .error ⟨nofun, nofun⟩

theorem OutcomesAlike.map {α β : Type} {Alike : α → α → Prop} {AlikeToo : β → β → Prop}
    {first second : Except Mistake α} (alike : OutcomesAlike Alike first second) {f g : α → β}
    (keeps : ∀ a b, Alike a b → AlikeToo (f a) (g b)) :
    OutcomesAlike AlikeToo (first.map f) (second.map g) := by
  cases alike with
  | ok alike => exact .ok (keeps _ _ alike)
  | error kind => exact .error kind

inductive Piece.Alike : Piece → Piece → Prop where
  | leaf (first second : Position) {token other : Token} (alike : token.Alike other)
      (members others : Except Mistake (List Complex)) :
      Piece.Alike ⟨.leaf first token, members⟩ ⟨.leaf second other, others⟩
  | block (first second : Position) (bracket : Bracket) {content inner : List Component}
      (inside : Component.AllAlike content inner) (members others : Except Mistake (List Complex)) :
      Piece.Alike ⟨.block first (.block bracket) content, members⟩
        ⟨.block second (.block bracket) inner, others⟩
  | function (first second : Position) {name other : Text} (named : name.NamedAlike other)
      (content inner : List Component) {members others : Except Mistake (List Complex)}
      (read : OutcomesAlike (fun selectors others => greatest selectors = greatest others)
        members others) :
      Piece.Alike ⟨.block first (.function name) content, members⟩
        ⟨.block second (.function other) inner, others⟩

theorem Piece.Alike.kind_eq {p q : Piece} (alike : p.Alike q) :
    p.component.kind = q.component.kind := by
  cases alike with
  | leaf _ _ alike => cases alike <;> rfl
  | block => rfl
  | function => rfl

theorem Piece.Alike.isBlank_eq {p q : Piece} (alike : p.Alike q) : p.isBlank = q.isBlank := by
  rw [Piece.isBlank, Piece.isBlank, Component.isBlank, Component.isBlank, alike.kind_eq]

theorem Piece.Alike.isBlankOrComment_eq {p q : Piece} (alike : p.Alike q) :
    p.isBlankOrComment = q.isBlankOrComment := by
  rw [Piece.isBlankOrComment, Piece.isBlankOrComment, Component.isBlankOrComment,
    Component.isBlankOrComment, alike.kind_eq]

theorem Piece.Alike.isSign_eq {p q : Piece} (alike : p.Alike q) (c : Char) :
    p.isSign c = q.isSign c := by
  rw [Piece.isSign, Piece.isSign, alike.kind_eq]

theorem Piece.Alike.combinator?_eq {p q : Piece} (alike : p.Alike q) :
    combinator? p = combinator? q := by
  rw [combinator?, combinator?, alike.isSign_eq, alike.isSign_eq, alike.isSign_eq]

/-- Pieces that go together, up to a blank at the end. -/
abbrev PiecesAlike : List Piece → List Piece → Prop :=
  UpToEnd Piece.Alike Piece.isBlank (·.isSign '|')

variable {ps qs : List Piece}

/-- Pieces that go together, both or none of them at an end. -/
inductive StartAlike : List Piece → List Piece → Prop where
  | nil : StartAlike [] []
  | cons {p q : Piece} {ps qs : List Piece} (alike : p.Alike q)
      (barred : p.isSign '|' = true → (ps = [] ↔ qs = [])) (rest : PiecesAlike ps qs) :
      StartAlike (p :: ps) (q :: qs)

theorem StartAlike.pieces (alike : StartAlike ps qs) : PiecesAlike ps qs := by
  cases alike with
  | nil => exact .nil
  | cons alike barred rest => exact .cons alike barred rest

/-- Dropping on both sides by a test that passes blanks. -/
theorem PiecesAlike.dropWhile (alike : PiecesAlike ps qs) {test : Piece → Bool}
    (respects : ∀ p q : Piece, p.Alike q → test p = test q)
    (passes : ∀ p : Piece, p.isBlank = true → test p = true) :
    StartAlike (ps.dropWhile test) (qs.dropWhile test) := by
  induction alike with
  | nil => exact .nil
  | @blank p empty =>
    rw [List.dropWhile_cons, if_pos (passes p empty)]
    exact .nil
  | @cons p q ps qs alike barred rest ih =>
    rw [List.dropWhile_cons, List.dropWhile_cons, respects p q alike]
    split
    · exact ih
    · exact .cons alike barred rest

theorem PiecesAlike.dropBlanks (alike : PiecesAlike ps qs) :
    StartAlike (ps.dropWhile Piece.isBlank) (qs.dropWhile Piece.isBlank) :=
  alike.dropWhile (fun _ _ alike => alike.isBlank_eq) fun _ => id

theorem PiecesAlike.dropBlanksAndComments (alike : PiecesAlike ps qs) :
    StartAlike (ps.dropWhile Piece.isBlankOrComment) (qs.dropWhile Piece.isBlankOrComment) :=
  alike.dropWhile (fun _ _ alike => alike.isBlankOrComment_eq) fun _ => isBlankOrComment_of_isBlank

theorem PiecesAlike.drop_one (alike : PiecesAlike ps qs) : PiecesAlike (ps.drop 1) (qs.drop 1) := by
  cases alike with
  | nil => exact .nil
  | blank empty => exact .nil
  | cons _ _ rest => exact rest

theorem Piece.exists_blank (p : Piece) (empty : p.isBlank = true) :
    ∃ position text members, p = ⟨.leaf position (.blank text), members⟩ := by
  obtain ⟨component, members⟩ := p
  obtain ⟨position, text, rfl⟩ := Selector.exists_blank (of_decide_eq_true empty)
  exact ⟨position, text, members, rfl⟩

theorem startsWithBar_of_isBlank {p : Piece} (empty : p.isBlank = true) (rest : List Piece) :
    startsWithBar (p :: rest) = false := by
  obtain ⟨position, text, members, rfl⟩ := p.exists_blank empty
  rfl

theorem PiecesAlike.startsWithBar_eq (alike : PiecesAlike ps qs) :
    startsWithBar ps = startsWithBar qs := by
  cases alike with
  | nil => rfl
  | blank empty => exact startsWithBar_of_isBlank empty []
  | cons alike _ _ => exact alike.isSign_eq '|'

/-- Results alike, or failures alike, and in both cases what is left is alike. -/
inductive ReadAlike {α : Type} (Alike : α → α → Prop) : Reading α → Reading α → Prop where
  | ok {value other : α} {left right : List Piece} (alike : Alike value other)
      (rest : PiecesAlike left right) :
      ReadAlike Alike (.ok (value, left)) (.ok (other, right))
  | error {first second : Mistake} {left right : List Piece}
      (kind : first = .unfinished ↔ second = .unfinished) (rest : PiecesAlike left right) :
        ReadAlike Alike (.error (first, left)) (.error (second, right))

theorem ReadAlike.broken {α : Type} {Alike : α → α → Prop} {cause other : Cause}
    {found second : Option Piece} (rest : PiecesAlike ps qs) :
    ReadAlike Alike (broken cause found ps : Reading α) (Selector.broken other second qs) :=
  .error ⟨nofun, nofun⟩ rest

theorem ReadAlike.map {α β : Type} {Alike : α → α → Prop} {AlikeToo : β → β → Prop}
    {first second : Reading α} (alike : ReadAlike Alike first second) {f g : α → β}
    (keeps : ∀ a b, Alike a b → AlikeToo (f a) (g b)) :
    ReadAlike AlikeToo (first.map fun (value, left) => (f value, left))
      (second.map fun (value, left) => (g value, left)) := by
  cases alike with
  | ok alike rest => exact .ok (keeps _ _ alike) rest
  | error kind rest => exact .error kind rest

/-! ### Names and attribute tests -/

theorem readAlike_localName (inAttribute : Bool) (alike : PiecesAlike ps qs)
    (ends : ps = [] ↔ qs = []) :
    ReadAlike Simple.Alike (localName inAttribute ps) (localName inAttribute qs) := by
  cases alike with
  | nil => exact .error Iff.rfl .nil
  | blank empty => cases ends.2 rfl
  | cons alike barred rest =>
    cases alike with
    | leaf first second alike members others =>
      cases alike with
      | ident named => exact .ok (.typeName _ _) rest
      | literal text =>
        by_cases star : text = ['*']
        · subst star
          cases inAttribute with
          | true => exact .broken rest
          | false => exact .ok .universal rest
        · rw [localName_literal star, localName_literal star]
          exact .broken rest
      | _ => exact .broken rest
    | block => exact .broken rest
    | function => exact .broken rest

/-- A bar has something behind it on both sides or on none. -/
theorem PiecesAlike.behind_bar (alike : PiecesAlike ps qs) (bar : startsWithBar ps = true) :
    ps.drop 1 = [] ↔ qs.drop 1 = [] := by
  cases alike with
  | nil => cases bar
  | blank empty => cases (startsWithBar_of_isBlank empty []).symm.trans bar
  | cons _ barred _ => exact barred bar

theorem readAlike_qualifiedName (inAttribute : Bool) (alike : PiecesAlike ps qs) :
    ReadAlike (Option.Rel Simple.Alike) (qualifiedName inAttribute ps)
      (qualifiedName inAttribute qs) := by
  cases alike with
  | nil => exact .ok .none .nil
  | @blank p empty =>
    obtain ⟨position, text, members, rfl⟩ := p.exists_blank empty
    exact .ok .none (.blank empty)
  | cons alike barred rest =>
    have rest : PiecesAlike _ _ := rest
    have bar := rest.startsWithBar_eq
    cases alike with
    | leaf first second alike members others =>
      have whole : PiecesAlike _ _ := .cons (.leaf first second alike members others) barred rest
      cases alike with
      | ident named =>
        simp only [qualifiedName, bar]
        split
        · exact .broken rest.drop_one
        · exact .ok (.some (.typeName _ _)) rest
      | literal text =>
        by_cases star : text = ['*']
        · subst star
          simp only [qualifiedName, bar]
          split
          · next found =>
            have name :=
              readAlike_localName inAttribute rest.drop_one (rest.behind_bar (bar.trans found))
            exact name.map fun _ _ => .some
          · cases inAttribute with
            | true => exact .broken rest
            | false => exact .ok (.some .universal) rest
        · by_cases stroke : text = ['|']
          · subst stroke
            exact (readAlike_localName inAttribute rest (barred rfl)).map fun _ _ => .some
          · rw [qualifiedName_literal star stroke, qualifiedName_literal star stroke]
            exact .ok .none whole
      | _ => exact .ok .none whole
    | block first second bracket inside members others =>
      exact .ok .none (.cons (.block first second bracket inside members others) barred rest)
    | function first second named content inner read =>
      exact .ok .none (.cons (.function first second named content inner read) barred rest)

/-- What is read from the contents of square brackets is of no weight. -/
def anything {α : Type} (_ _ : α) : Prop := True

theorem outcomesAlike_attributeEnd (alike : PiecesAlike ps qs) :
    OutcomesAlike anything (attributeEnd ps) (attributeEnd qs) := by
  have solid := alike.dropBlanks
  unfold attributeEnd
  generalize ps.dropWhile Piece.isBlank = first, qs.dropWhile Piece.isBlank = second at solid
  cases solid with
  | nil => exact .ok trivial
  | cons alike barred rest =>
    cases alike with
    | leaf first second alike =>
      cases alike with
      | ident named =>
        have foreign (name : Text) (foreign : name.HasForeign) : (name = ['i'] || name = ['s']) =
            false := by
          have differs : name ≠ ['i'] := foreign.ne (by decide)
          have differsToo : name ≠ ['s'] := foreign.ne (by decide)
          simp [differs, differsToo]
        have letter := named.congr _ foreign
        dsimp only at letter ⊢
        rw [letter]
        split
        · exact .ok trivial
        · exact .broken
      | _ => exact .broken
    | block => exact .broken
    | function => exact .broken

theorem outcomesAlike_attributeValue (alike : PiecesAlike ps qs) :
    OutcomesAlike anything (attributeValue ps) (attributeValue qs) := by
  have solid := alike.dropBlanks
  unfold attributeValue
  generalize ps.dropWhile Piece.isBlank = first, qs.dropWhile Piece.isBlank = second at solid
  cases solid with
  | nil => exact .broken
  | cons alike barred rest =>
    cases alike with
    | leaf first second alike =>
      cases alike with
      | ident named => exact outcomesAlike_attributeEnd rest
      | string value other closed => exact outcomesAlike_attributeEnd rest
      | _ => exact .broken
    | block => exact .broken
    | function => exact .broken

theorem outcomesAlike_attributeTest (alike : PiecesAlike ps qs) :
    OutcomesAlike anything (attributeTest ps) (attributeTest qs) := by
  have solid := alike.dropBlanks
  unfold attributeTest
  generalize ps.dropWhile Piece.isBlank = first, qs.dropWhile Piece.isBlank = second at solid
  cases solid with
  | nil => exact .ok trivial
  | cons alike barred rest =>
    cases alike with
    | leaf first second alike =>
      cases alike with
      | literal text =>
        dsimp only
        split
        · exact outcomesAlike_attributeValue rest
        · exact .broken
      | _ => exact .broken
    | block => exact .broken
    | function => exact .broken

theorem Piece.alike_plain {c d : Component} (alike : c.Alike d) :
    (Piece.plain c).Alike (Piece.plain d) := by
  cases alike with
  | leaf first second alike => exact .leaf first second alike _ _
  | block first second opener inside =>
    cases opener with
    | block bracket => exact .block first second bracket inside _ _
    | function named => exact .function first second named _ _ (.ok rfl)

/-- In square brackets no arguments are read. -/
theorem piecesAlike_plain {content inner : List Component}
    (inside : Component.AllAlike content inner) :
    PiecesAlike (content.map Piece.plain) (inner.map Piece.plain) := by
  induction inside with
  | nil => exact .nil
  | blank empty => exact .blank empty
  | cons alike barred _ ih =>
    refine .cons (Piece.alike_plain alike) (fun bar => ?_) ih
    rw [List.map_eq_nil_iff, List.map_eq_nil_iff]
    exact barred bar

theorem outcomesAlike_attributeSelector {content inner : List Component}
    (inside : Component.AllAlike content inner) :
    OutcomesAlike Simple.Alike (attributeSelector content) (attributeSelector inner) := by
  have named := readAlike_qualifiedName true (piecesAlike_plain inside).dropBlanks.pieces
  unfold attributeSelector
  generalize qualifiedName true ((content.map Piece.plain).dropWhile Piece.isBlank) = first,
    qualifiedName true ((inner.map Piece.plain).dropWhile Piece.isBlank) = second at named
  cases named with
  | error kind rest => exact .error kind
  | ok name rest =>
    cases name with
    | none => exact .broken
    | some name =>
      cases name with
      | typeName name other =>
        exact (outcomesAlike_attributeTest rest).map fun _ _ _ => .attributeName name other
      | _ => exact .broken

/-! ### Simple and compound selectors -/

theorem readAlike_pseudoElement (alike : PiecesAlike ps qs) :
    ReadAlike (Option.Rel Simple.Alike) (pseudoElement ps) (pseudoElement qs) := by
  cases alike with
  | nil => exact .broken .nil
  | @blank p empty =>
    obtain ⟨position, text, members, rfl⟩ := p.exists_blank empty
    exact .broken .nil
  | cons alike barred rest =>
    cases alike with
    | leaf first second alike =>
      cases alike with
      | ident named =>
        have known :=
          named.congr _ fun _ foreign => foreign.contains_eq pseudoElementNames (by decide)
        simp only [pseudoElement, known]
        split
        · exact .ok (.some (.pseudoElement _ _)) rest
        · exact .broken rest
      | _ => exact .broken rest
    | block => exact .broken rest
    | function => exact .broken rest

theorem readAlike_pseudo (alike : PiecesAlike ps qs) :
    ReadAlike (Option.Rel Simple.Alike) (pseudo ps) (pseudo qs) := by
  cases alike with
  | nil => exact .broken .nil
  | @blank p empty =>
    obtain ⟨position, text, members, rfl⟩ := p.exists_blank empty
    exact .broken .nil
  | cons alike barred rest =>
    cases alike with
    | leaf first second alike =>
      cases alike with
      | ident named =>
        have known :=
          named.congr _ fun _ foreign => foreign.contains_eq shortPseudoElementNames (by decide)
        simp only [pseudo, known]
        split
        · exact .ok (.some (.pseudoElement _ _)) rest
        · exact .ok (.some (.pseudoClass _ _)) rest
      | literal text =>
        by_cases colon : text = [':']
        · subst colon
          exact readAlike_pseudoElement rest
        · rw [pseudo_literal colon, pseudo_literal colon]
          exact .broken rest
      | _ => exact .broken rest
    | block => exact .broken rest
    | function first second named content inner read =>
      simp only [pseudo, named.congr _ Logical.ofName?_foreign]
      cases Logical.ofName? _ with
      | none => exact .ok (.some (.pseudoClass _ _)) rest
      | some function =>
        cases read with
        | ok weight => exact .ok (.some (.logical function weight)) rest
        | error kind => exact .error kind rest

theorem readAlike_classSelector (alike : PiecesAlike ps qs) :
    ReadAlike (Option.Rel Simple.Alike) (classSelector ps) (classSelector qs) := by
  cases alike with
  | nil => exact .broken .nil
  | @blank p empty =>
    obtain ⟨position, text, members, rfl⟩ := p.exists_blank empty
    exact .broken .nil
  | cons alike barred rest =>
    cases alike with
    | leaf first second alike =>
      cases alike with
      | ident named => exact .ok (.some (.className _ _)) rest
      | _ => exact .broken rest
    | block => exact .broken rest
    | function => exact .broken rest

theorem readAlike_simple (alike : PiecesAlike ps qs) :
    ReadAlike (Option.Rel Simple.Alike) (simple ps) (simple qs) := by
  cases alike with
  | nil => exact .ok .none .nil
  | @blank p empty =>
    obtain ⟨position, text, members, rfl⟩ := p.exists_blank empty
    exact .ok .none (.blank empty)
  | cons alike barred rest =>
    cases alike with
    | leaf first second alike members others =>
      have whole : PiecesAlike _ _ := .cons (.leaf first second alike members others) barred rest
      cases alike with
      | hash name other isIdent =>
        cases isIdent with
        | true => exact .ok (.some (.idName _ _)) rest
        | false => exact .ok .none whole
      | literal text =>
        by_cases dot : text = ['.']
        · subst dot
          exact readAlike_classSelector rest
        · by_cases colon : text = [':']
          · subst colon
            exact readAlike_pseudo rest
          · rw [simple_literal dot colon, simple_literal dot colon]
            exact .ok .none whole
      | _ => exact .ok .none whole
    | @block first second bracket content inner inside members others =>
      have whole : PiecesAlike _ _ :=
        .cons (.block first second bracket inside members others) barred rest
      cases bracket with
      | square =>
        have test := outcomesAlike_attributeSelector inside
        simp only [simple]
        generalize attributeSelector content = outcome, attributeSelector inner = outcome' at test
        cases test with
        | ok part => exact .ok (.some part) rest
        | error kind => exact .error kind rest
      | round => exact .ok .none whole
      | curly => exact .ok .none whole
    | function first second named content inner read =>
      exact .ok .none (.cons (.function first second named content inner read) barred rest)

theorem readAlike_simples (alike : PiecesAlike ps qs) :
    ReadAlike PartsAlike (simples ps) (simples qs) := by
  induction length : ps.length using Nat.strongRecOn generalizing ps qs with
  | ind n ih =>
    have one := readAlike_simple alike
    have shorter := (length_left_simple ps).2
    rw [simples_eq ps, simples_eq qs]
    generalize simple ps = first, simple qs = second at one shorter
    cases one with
    | error kind rest => exact .error kind rest
    | @ok value other left right part rest =>
      cases part with
      | none => exact .ok .nil rest
      | @some value other part =>
        dsimp only
        rw [part.isPseudoElement_eq]
        split
        · exact .ok (.cons part .nil) rest
        · exact (ih left.length (length ▸ shorter value left rfl) rest rfl).map fun _ _ others =>
            .cons part others

theorem readAlike_compound (alike : PiecesAlike ps qs) :
    ReadAlike PartsAlike (compound ps) (compound qs) := by
  have named := readAlike_qualifiedName false alike.dropBlanks.pieces
  unfold compound
  generalize qualifiedName false (ps.dropWhile Piece.isBlank) = first,
    qualifiedName false (qs.dropWhile Piece.isBlank) = second at named
  cases named with
  | error kind rest => exact .error kind rest
  | @ok name other left right alike rest =>
    have further := readAlike_simples rest
    dsimp only
    generalize simples left = first, simples right = second at further
    cases further with
    | error kind rest => exact .error kind rest
    | @ok parts others _ _ parted rest =>
      have whole : PartsAlike (name.toList ++ parts) (other.toList ++ others) := by
        cases alike with
        | none => exact parted
        | some first => exact .cons first parted
      dsimp only
      generalize name.toList ++ parts = parts, other.toList ++ others = others at whole
      cases whole with
      | nil => exact .broken rest
      | cons first others => exact .ok (.cons first others) rest

/-! ### Combinators and lists -/

theorem any_takeWhile_alike (alike : PiecesAlike ps qs)
    (solid : ps.dropWhile Piece.isBlankOrComment ≠ []) :
    (ps.takeWhile Piece.isBlankOrComment).any Piece.isBlank =
      (qs.takeWhile Piece.isBlankOrComment).any Piece.isBlank := by
  induction alike with
  | nil => exact absurd rfl solid
  | blank empty =>
    rw [List.dropWhile_cons, if_pos (isBlankOrComment_of_isBlank empty)] at solid
    exact absurd rfl solid
  | cons alike _ _ ih =>
    rw [List.dropWhile_cons] at solid
    rw [List.takeWhile_cons, List.takeWhile_cons, ← alike.isBlankOrComment_eq]
    split at solid
    · next skipped => simp only [skipped, if_true, List.any_cons, alike.isBlank_eq, ih solid]
    · next found => simp [found]

/-- The same combinator is found, or none, and the pieces behind it are alike. -/
theorem nextCombinator_alike (alike : PiecesAlike ps qs) :
    (nextCombinator ps).1 = (nextCombinator qs).1 ∧
      PiecesAlike (nextCombinator ps).2 (nextCombinator qs).2 := by
  have start := alike.dropBlanksAndComments
  have blank := any_takeWhile_alike alike
  unfold nextCombinator
  generalize ps.dropWhile Piece.isBlankOrComment = left,
    qs.dropWhile Piece.isBlankOrComment = right at start blank
  cases start with
  | nil => exact ⟨rfl, .nil⟩
  | cons alike barred rest =>
    have whole : PiecesAlike _ _ := .cons alike barred rest
    dsimp only
    rw [← blank (List.cons_ne_nil _ _), ← alike.isSign_eq, ← alike.combinator?_eq]
    split
    · exact ⟨rfl, whole⟩
    · split
      · exact ⟨rfl, rest⟩
      · split
        · exact ⟨rfl, whole⟩
        · exact ⟨rfl, whole⟩

theorem readAlike_complexFrom {left right : Complex} (start : left.Alike right)
    (alike : PiecesAlike ps qs) :
    ReadAlike Complex.Alike (complexFrom left ps) (complexFrom right qs) := by
  induction length : ps.length using Nat.strongRecOn generalizing left right ps qs with
  | ind n ih =>
    rw [complexFrom_eq left ps, complexFrom_eq right qs, start.ending]
    split
    · exact .ok start alike.dropBlanksAndComments.pieces
    · obtain ⟨same, further⟩ := nextCombinator_alike alike
      have bound := (length_nextCombinator ps).2
      generalize nextCombinator ps = first, nextCombinator qs = second at same further bound
      obtain ⟨combinator, rest⟩ := first
      obtain ⟨combinator', other⟩ := second
      obtain rfl : combinator = combinator' := same
      cases combinator with
      | none => exact .ok start further
      | some combinator =>
        have next := readAlike_compound further
        have less := length_left_compound_le rest
        dsimp only at next less ⊢
        generalize compound rest = reading, compound other = reading' at next less
        cases next with
        | error kind rest => exact .error kind rest
        | @ok parts others after _ parted behind =>
          refine ih after.length ?_ (start.joined combinator parted) behind rfl
          have := bound nofun
          simp only [Reading.left] at less this
          omega

/-- Nothing but a sign is left in front where a selector ends. -/
theorem head_of_complexFrom {left selector : Complex} {rest : List Piece}
    (success : complexFrom left ps = .ok (selector, rest)) :
    ∀ p ∈ rest.head?, p.isBlank = false := by
  have skipped (ps : List Piece) : ∀ p ∈ (ps.dropWhile Piece.isBlankOrComment).head?,
      p.isBlank = false := by
    intro p head
    have other := List.head?_dropWhile_not Piece.isBlankOrComment ps
    rw [head] at other
    cases blank : p.isBlank with
    | false => rfl
    | true => simp [isBlankOrComment_of_isBlank blank] at other
  fun_induction complexFrom left ps with
  | case1 left ps =>
    obtain ⟨-, rfl⟩ := Prod.mk.inj (Except.ok.inj success)
    exact skipped ps
  | case2 left ps _ after none =>
    obtain ⟨-, rfl⟩ := Prod.mk.inj (Except.ok.inj success)
    have solid := skipped ps
    unfold nextCombinator at none
    generalize ps.dropWhile Piece.isBlankOrComment = start at none solid
    cases start with
    | nil =>
      obtain ⟨-, rfl⟩ := Prod.mk.inj none
      intro p head
      cases head
    | cons p later =>
      dsimp only at none
      split at none
      · exact (Prod.mk.inj none).2 ▸ solid
      · split at none
        · cases none
        · split at none
          · cases none
          · exact (Prod.mk.inj none).2 ▸ solid
  | case3 => cases success
  | case4 left ps _ combinator after _ parts later _ ih => exact ih success

theorem piecesAlike_complexStart (relative : Bool) (alike : PiecesAlike ps qs) :
    PiecesAlike (complexStart relative ps) (complexStart relative qs) := by
  have start := alike.dropBlanksAndComments
  have past : PiecesAlike (dropCombinator (ps.dropWhile Piece.isBlankOrComment))
      (dropCombinator (qs.dropWhile Piece.isBlankOrComment)) := by
    generalize ps.dropWhile Piece.isBlankOrComment = first,
      qs.dropWhile Piece.isBlankOrComment = second at start
    cases start with
    | nil => exact .nil
    | cons alike barred rest =>
      simp only [dropCombinator, alike.combinator?_eq]
      split
      · exact rest
      · exact .cons alike barred rest
  cases relative with
  | true => exact past.dropBlanksAndComments.pieces
  | false => exact start.pieces

theorem readAlike_complex (relative : Bool) (alike : PiecesAlike ps qs) :
    ReadAlike Complex.Alike (complex relative ps) (complex relative qs) := by
  have first := readAlike_compound (piecesAlike_complexStart relative alike)
  unfold complex
  generalize compound (complexStart relative ps) = reading,
    compound (complexStart relative qs) = reading' at first
  cases first with
  | error kind rest => exact .error kind rest
  | ok parted rest => exact readAlike_complexFrom parted.compound rest

theorem head_of_complex {relative : Bool} {selector : Complex} {rest : List Piece}
    (success : complex relative ps = .ok (selector, rest)) :
    ∀ p ∈ rest.head?, p.isBlank = false := by
  unfold complex at success
  split at success
  · cases success
  · exact head_of_complexFrom success

/-- A list that is not forgiving is only read on from where a selector ends. -/
theorem outcomesAlike_members (forgiving relative : Bool) (alike : PiecesAlike ps qs)
    (solid : forgiving = false → ∀ p ∈ ps.head?, p.isBlank = false) :
    OutcomesAlike ListsAlike (members forgiving relative ps) (members forgiving relative qs) := by
  induction length : ps.length using Nat.strongRecOn generalizing ps qs with
  | ind n ih =>
    cases alike with
    | nil =>
      rw [members]
      exact .ok .nil
    | @blank p empty =>
      cases forgiving with
      | false => cases (solid rfl p rfl).symm.trans empty
      -- A forgiving list may have stopped at a fault anywhere: it passes over the blank to the end.
      | true =>
        obtain ⟨position, text, others, rfl⟩ := p.exists_blank empty
        rw [members_eq, members]
        exact .ok .nil
    | @cons p q ps qs alike _ rest =>
      have shorter := length_left_complex_le relative ps
      have read := readAlike_complex relative rest
      have head (selector : Complex) (left : List Piece)
          (success : complex relative ps = .ok (selector, left)) :=
        head_of_complex success
      rw [List.length_cons] at length
      rw [members_eq, members_eq, alike.isSign_eq]
      split
      · generalize complex relative ps = first, complex relative qs = second at read shorter head
        cases read with
        | @ok selector other left right first behind =>
          have less : left.length < n := length ▸ Nat.lt_succ_of_le shorter
          exact (ih left.length less behind (fun _ => head _ _ rfl) rfl).map fun _ _ others =>
            .cons first others
        | @error first second left right kind behind =>
          cases first with
          | unfinished =>
            rw [kind.1 rfl]
            exact .error Iff.rfl
          | broken cause found =>
            cases second with
            | unfinished => cases kind.2 rfl
            | broken cause' found' =>
              cases forgiving with
              | true =>
                exact ih left.length (length ▸ Nat.lt_succ_of_le shorter) behind
                  (fun strict => by cases strict) rfl
              | false => exact .broken
      · cases forgiving with
        | true =>
          exact ih ps.length (length ▸ Nat.lt_succ_self _) rest (fun strict => by cases strict) rfl
        | false => exact .broken

theorem outcomesAlike_list (forgiving relative : Bool) (alike : PiecesAlike ps qs) :
    OutcomesAlike ListsAlike (list forgiving relative ps) (list forgiving relative qs) := by
  have read := readAlike_complex relative alike
  have head (selector : Complex) (left : List Piece)
      (success : complex relative ps = .ok (selector, left)) :=
    head_of_complex success
  unfold list
  generalize complex relative ps = first, complex relative qs = second at read head
  cases read with
  | ok first rest =>
    exact (outcomesAlike_members forgiving relative rest fun _ => head _ _ rfl).map
      fun _ _ others => .cons first others
  | @error first second left right kind rest =>
    cases first with
    | unfinished =>
      rw [kind.1 rfl]
      exact .error Iff.rfl
    | broken cause found =>
      cases second with
      | unfinished => cases kind.2 rfl
      | broken cause' found' =>
        cases forgiving with
        | true => exact .ok .nil
        | false => exact .broken

theorem outcomesAlike_arguments {name other : Text} (named : name.NamedAlike other)
    (alike : PiecesAlike ps qs) :
    OutcomesAlike (fun selectors others => greatest selectors = greatest others)
      (arguments (.function name) ps) (arguments (.function other) qs) := by
  simp only [arguments, named.congr _ Logical.ofName?_foreign]
  split
  · exact .ok rfl
  · exact (outcomesAlike_list _ _ alike).map fun _ _ alike =>
      ListsAlike.greatest_eq (ListsAlike.filter alike)

theorem pieces_eq_nil {content : List Component} : pieces content = [] ↔ content = [] := by
  fun_cases pieces content <;> simp

theorem piecesAlike_pieces {content inner : List Component}
    (alike : Component.AllAlike content inner) :
    PiecesAlike (pieces content) (pieces inner) := by
  fun_induction pieces content generalizing inner with
  | case1 =>
    cases alike with
    | nil =>
      rw [pieces]
      exact .nil
  | case2 position token rest ih =>
    cases alike with
    | blank empty =>
      rw [pieces]
      exact .blank empty
    | cons alike barred others =>
      cases alike with
      | leaf _ second alike =>
        rw [pieces]
        refine .cons (.leaf position second alike _ _) (fun bar => ?_) (ih others)
        rw [pieces_eq_nil, pieces_eq_nil]
        exact barred bar
  | case3 position opener content rest ihContent ih =>
    cases alike with
    | blank empty => cases opener <;> cases empty
    | cons alike barred others =>
      cases alike with
      | block _ second opener inside =>
        cases opener with
        | block bracket =>
          rw [pieces]
          exact .cons (.block position second bracket inside _ _)
            (fun bar => by cases bar) (ih others)
        | function named =>
          have read := outcomesAlike_arguments named (ihContent inside)
          rw [pieces]
          exact .cons (.function position second named _ _ read)
            (fun bar => by cases bar) (ih others)

/-- Component values that are alike are read to lists of the same weight, or not at all. -/
theorem outcomesAlike_ofComponents {content inner : List Component}
    (alike : Component.AllAlike content inner) :
    OutcomesAlike ListsAlike (ofComponents content) (ofComponents inner) :=
  outcomesAlike_list false false (piecesAlike_pieces alike)

end StyleScore.Selector
