import StyleScore.Selector.Grammar
import StyleScore.Text.Lowercase

/-!
From component values to selectors. Every reader takes the pieces that are left and returns what
remains after it, also when it fails, since a forgiving list goes on from there. The main statement
is that no reader lengthens what is left (`length_left_complex_le`), which ends the loops.
-/
namespace StyleScore.Selector

/-- A component value of a selector, with the arguments of a logical pseudo-class already read. -/
structure Piece where
  component : Component
  members : Except Mistake (List Complex)

namespace Piece

/-- A component value whose arguments do not matter. -/
def plain (component : Component) : Piece := ⟨component, .ok []⟩

def isSign (p : Piece) (c : Char) : Bool := p.component.kind = .sign c

def isBlank (p : Piece) : Bool := p.component.isBlank

def isBlankOrComment (p : Piece) : Bool := p.component.isBlankOrComment

end Piece

/-- What was read with the pieces after it, or what was wrong with the pieces not yet used. -/
abbrev Reading (α : Type) := Except (Mistake × List Piece) (α × List Piece)

/-- The pieces that are left after a success or a failure. -/
def Reading.left {α : Type} : Reading α → List Piece
  | .ok (_, rest) => rest
  | .error (_, rest) => rest

/-- A failure at a piece, or at the end of them. -/
def broken {α : Type} (cause : Cause) (found : Option Piece) (rest : List Piece) : Reading α :=
  .error (.broken cause (found.map (·.component)), rest)

/-- A local name, which follows the bar of a namespace. -/
def localName (inAttribute : Bool) : List Piece → Reading Simple
  | [] => .error (.unfinished, [])
  | p :: rest =>
    match p.component with
    | .leaf _ (.ident name) => .ok (.typeName name, rest)
    | .leaf _ (.literal ['*']) =>
      if inAttribute then broken .noLocalName p rest else .ok (.universal, rest)
    | _ => broken .noLocalName p rest

def startsWithBar (pieces : List Piece) : Bool := pieces.head?.elim false (·.isSign '|')

/-- A name with an optional namespace, if there is one. No namespace prefix is ever defined, and an
attribute has no universal name. -/
def qualifiedName (inAttribute : Bool) (pieces : List Piece) : Reading (Option Simple) :=
  match pieces with
  | [] => .ok (none, [])
  | p :: rest =>
    match p.component with
    | .leaf _ (.ident name) =>
      if startsWithBar rest then broken (.undefinedPrefix name) p (rest.drop 1)
      else .ok (some (.typeName name), rest)
    | .leaf _ (.literal ['*']) =>
      if startsWithBar rest then
        (localName inAttribute (rest.drop 1)).map fun (name, left) => (some name, left)
      else if inAttribute then broken .noLocalName p rest
      else .ok (some .universal, rest)
    | .leaf _ (.literal ['|']) =>
      (localName inAttribute rest).map fun (name, left) => (some name, left)
    | _ => .ok (none, pieces)

def attributeOperators : List Text :=
  ["=".toList, "~=".toList, "|=".toList, "^=".toList, "$=".toList, "*=".toList]

/-- After the value of an attribute: nothing, or a letter for how letter case counts. -/
def attributeEnd (pieces : List Piece) : Except Mistake Unit :=
  match pieces.dropWhile Piece.isBlank with
  | [] => .ok ()
  | p :: _ =>
    match p.component with
    | .leaf _ (.ident name) =>
      if Text.asciiLower name = ['i'] || Text.asciiLower name = ['s'] then .ok ()
      else .error (.broken .noAttributeEnd p.component)
    | c => .error (.broken .noAttributeEnd c)

/-- After the operator of an attribute: its value. -/
def attributeValue (pieces : List Piece) : Except Mistake Unit :=
  match pieces.dropWhile Piece.isBlank with
  | [] => .error (.broken .noAttributeValue none)
  | p :: rest =>
    match p.component with
    | .leaf _ (.ident _) => attributeEnd rest
    | .leaf _ (.string _ _) => attributeEnd rest
    | c => .error (.broken .noAttributeValue c)

/-- After the name of an attribute: nothing, or an operator and a value. -/
def attributeTest (pieces : List Piece) : Except Mistake Unit :=
  match pieces.dropWhile Piece.isBlank with
  | [] => .ok ()
  | p :: rest =>
    match p.component with
    | .leaf _ (.literal text) =>
      if attributeOperators.contains text then attributeValue rest
      else .error (.broken .noAttributeOperator p.component)
    | c => .error (.broken .noAttributeOperator c)

/-- The contents of square brackets. -/
def attributeSelector (content : List Component) : Except Mistake Simple :=
  match qualifiedName true ((content.map Piece.plain).dropWhile Piece.isBlank) with
  | .error (mistake, _) => .error mistake
  | .ok (some (.typeName name), rest) => (attributeTest rest).map fun _ => .attributeName name
  | .ok (_, rest) => .error (.broken .noAttributeName (rest.head?.map (·.component)))

def pseudoElementNames : List Text :=
  ["first-line".toList, "first-letter".toList, "prefix".toList, "postfix".toList,
    "selection".toList, "target-text".toList, "spelling-error".toList, "grammar-error".toList,
    "before".toList, "after".toList, "marker".toList, "placeholder".toList,
    "file-selector-button".toList, "footnote-call".toList, "footnote-marker".toList,
    "note-call".toList, "note-marker".toList, "note-callback".toList, "content".toList,
    "shadow".toList]

/-- The pseudo-elements that may be written with one colon. -/
def shortPseudoElementNames : List Text :=
  ["before".toList, "after".toList, "first-line".toList, "first-letter".toList]

/-- After two colons. -/
def pseudoElement : List Piece → Reading (Option Simple)
  | [] => broken .noPseudoElementName none []
  | p :: rest =>
    match p.component with
    | .leaf _ (.ident name) =>
      if pseudoElementNames.contains (Text.asciiLower name) then
        .ok (some (.pseudoElement (Text.asciiLower name)), rest)
      else broken (.unknownPseudoElement (Text.asciiLower name)) p rest
    | _ => broken .noPseudoElementName p rest

/-- After one colon. -/
def pseudo : List Piece → Reading (Option Simple)
  | [] => broken .noPseudoClass none []
  | p :: rest =>
    match p.component with
    | .leaf _ (.literal [':']) => pseudoElement rest
    | .leaf _ (.ident name) =>
      if shortPseudoElementNames.contains (Text.asciiLower name) then
        .ok (some (.pseudoElement (Text.asciiLower name)), rest)
      else .ok (some (.pseudoClass (Text.asciiLower name)), rest)
    | .block _ (.function name) _ =>
      match Logical.ofName? (Text.asciiLower name), p.members with
      | some function, .ok members => .ok (some (.logical function members), rest)
      | some _, .error mistake => .error (mistake, rest)
      | none, _ => .ok (some (.pseudoClass (Text.asciiLower name)), rest)
    | _ => broken .noPseudoClass p rest

/-- After a dot. -/
def classSelector : List Piece → Reading (Option Simple)
  | [] => broken .noClassName none []
  | p :: rest =>
    match p.component with
    | .leaf _ (.ident name) => .ok (some (.className name), rest)
    | _ => broken .noClassName p rest

/-- The next simple selector other than a name, if there is one. -/
def simple (pieces : List Piece) : Reading (Option Simple) :=
  match pieces with
  | [] => .ok (none, [])
  | p :: rest =>
    match p.component with
    | .leaf _ (.hash name true) => .ok (some (.idName name), rest)
    | .leaf _ (.literal ['.']) => classSelector rest
    | .leaf _ (.literal [':']) => pseudo rest
    | .block _ (.block .square) content =>
      match attributeSelector content with
      | .ok part => .ok (some part, rest)
      | .error mistake => .error (mistake, rest)
    | _ => .ok (none, pieces)

theorem length_left_classSelector_le (pieces : List Piece) :
    (classSelector pieces).left.length ≤ pieces.length := by
  unfold classSelector
  split
  · simp [broken, Reading.left]
  · split <;> simp [broken, Reading.left]

theorem length_left_pseudoElement_le (pieces : List Piece) :
    (pseudoElement pieces).left.length ≤ pieces.length := by
  unfold pseudoElement
  split
  · simp [broken, Reading.left]
  · split
    · split <;> simp [broken, Reading.left]
    · simp [broken, Reading.left]

theorem length_left_pseudo_le (pieces : List Piece) :
    (pseudo pieces).left.length ≤ pieces.length := by
  unfold pseudo
  split
  · simp [broken, Reading.left]
  · next p rest =>
    split
    · have := length_left_pseudoElement_le rest
      simp only [List.length_cons]
      omega
    · split <;> simp [Reading.left]
    · split <;> simp [Reading.left]
    · simp [broken, Reading.left]

theorem length_left_localName_le (inAttribute : Bool) (pieces : List Piece) :
    (localName inAttribute pieces).left.length ≤ pieces.length := by
  unfold localName
  split
  · simp [Reading.left]
  · split
    · simp [Reading.left]
    · split <;> simp [broken, Reading.left]
    · simp [broken, Reading.left]

theorem left_map {α β : Type} (reading : Reading α) (f : α → β) :
    Reading.left (reading.map fun (a, rest) => (f a, rest)) = reading.left := by
  cases reading <;> rfl

theorem length_left_qualifiedName_le (inAttribute : Bool) (pieces : List Piece) :
    (qualifiedName inAttribute pieces).left.length ≤ pieces.length := by
  unfold qualifiedName
  split
  · simp [Reading.left]
  · next p rest =>
    split
    · split
      · simp only [broken, Reading.left, List.length_drop, List.length_cons]
        omega
      · simp [Reading.left]
    · split
      · have := length_left_localName_le inAttribute (rest.drop 1)
        rw [left_map _ some]
        simp only [List.length_drop, List.length_cons] at this ⊢
        omega
      · split <;> simp [broken, Reading.left]
    · have := length_left_localName_le inAttribute rest
      rw [left_map _ some]
      simp only [List.length_cons]
      omega
    · simp [Reading.left]

/-- A failed reading of a simple selector, and one that found none, may use up nothing; one that
found a simple selector used at least one piece. -/
theorem length_left_simple (pieces : List Piece) :
    (simple pieces).left.length ≤ pieces.length ∧
      ∀ part rest, simple pieces = .ok (some part, rest) → rest.length < pieces.length := by
  unfold simple
  split
  · simp [Reading.left]
  · next p rest =>
    split
    · simp [Reading.left]
    · have := length_left_classSelector_le rest
      refine ⟨by simp only [List.length_cons]; omega, fun part left h => ?_⟩
      rw [h] at this
      exact Nat.lt_succ_of_le this
    · have := length_left_pseudo_le rest
      refine ⟨by simp only [List.length_cons]; omega, fun part left h => ?_⟩
      rw [h] at this
      exact Nat.lt_succ_of_le this
    · split <;> simp [Reading.left]
    · simp [Reading.left]

/-- Simple selectors one after another, up to and including a pseudo-element. -/
def simples (pieces : List Piece) : Reading (List Simple) :=
  match _h : simple pieces with
  | .error failure => .error failure
  | .ok (none, rest) => .ok ([], rest)
  | .ok (some part, rest) =>
    if part.isPseudoElement then .ok ([part], rest)
    else (simples rest).map fun (parts, left) => (part :: parts, left)
termination_by pieces.length
decreasing_by exact (length_left_simple pieces).2 _ _ _h

theorem length_left_simples_le (pieces : List Piece) :
    (simples pieces).left.length ≤ pieces.length := by
  fun_induction simples pieces with
  | case1 pieces failure h =>
    have := (length_left_simple pieces).1
    rw [h] at this
    exact this
  | case2 pieces rest h =>
    have := (length_left_simple pieces).1
    rw [h] at this
    exact this
  | case3 pieces part rest h _ =>
    exact Nat.le_of_lt ((length_left_simple pieces).2 _ _ h)
  | case4 pieces part rest h _ ih =>
    have := (length_left_simple pieces).2 _ _ h
    rw [left_map _ (part :: ·)]
    omega

/-- A compound selector: a name or simple selectors, at least one of them in all. -/
def compound (pieces : List Piece) : Reading (List Simple) :=
  match qualifiedName false (pieces.dropWhile Piece.isBlank) with
  | .error failure => .error failure
  | .ok (name, rest) =>
    match simples rest with
    | .error failure => .error failure
    | .ok (parts, left) =>
      match name.toList ++ parts with
      | [] => broken .noCompound left.head? left
      | parts => .ok (parts, left)

theorem length_left_compound_le (pieces : List Piece) :
    (compound pieces).left.length ≤ pieces.length := by
  have hb := (List.dropWhile_sublist Piece.isBlank (l := pieces)).length_le
  have hq := length_left_qualifiedName_le false (pieces.dropWhile Piece.isBlank)
  unfold compound
  split
  · next failure h =>
    rw [h] at hq
    simp only [Reading.left] at hq ⊢
    omega
  · next name rest h =>
    rw [h] at hq
    have hs := length_left_simples_le rest
    split
    · next failure h =>
      rw [h] at hs
      simp only [Reading.left] at hq hs ⊢
      omega
    · next parts left h =>
      rw [h] at hs
      simp only [Reading.left] at hq hs
      split <;> simp only [broken, Reading.left] <;> omega

/-- The combinator that a piece is. -/
def combinator? (p : Piece) : Option Combinator :=
  if p.isSign '>' then some .child
  else if p.isSign '+' then some .next
  else if p.isSign '~' then some .sibling
  else none

/-- The combinator before the next compound selector, with the pieces from there on; none when the
selector ends here. Blanks alone stand for the descendant combinator. -/
def nextCombinator (pieces : List Piece) : Option Combinator × List Piece :=
  match pieces.dropWhile Piece.isBlankOrComment with
  | [] => (none, [])
  | p :: rest =>
    if p.isSign ',' then (none, p :: rest)
    else match combinator? p with
      | some combinator => (some combinator, rest)
      | none =>
        if (pieces.takeWhile Piece.isBlankOrComment).any Piece.isBlank then (some .descendant,
          p :: rest)
        else (none, p :: rest)

theorem length_nextCombinator (pieces : List Piece) :
    (nextCombinator pieces).2.length ≤ pieces.length ∧
      ((nextCombinator pieces).1 ≠ none → (nextCombinator pieces).2.length < pieces.length) := by
  have hl : (pieces.takeWhile Piece.isBlankOrComment).length +
      (pieces.dropWhile Piece.isBlankOrComment).length = pieces.length := by
    rw [← List.length_append, List.takeWhile_append_dropWhile]
  unfold nextCombinator
  split
  · simp
  · next p rest h =>
    rw [h, List.length_cons] at hl
    split
    · simp only [List.length_cons]
      exact ⟨by omega, fun hn => absurd rfl hn⟩
    · split
      · exact ⟨by simp only; omega, fun _ => by simp only; omega⟩
      · split
        · next hb =>
          have : 0 < (pieces.takeWhile Piece.isBlankOrComment).length := by
            cases ht : pieces.takeWhile Piece.isBlankOrComment with
            | nil => simp [ht] at hb
            | cons => simp
          simp only [List.length_cons]
          exact ⟨by omega, fun _ => by omega⟩
        · simp only [List.length_cons]
          exact ⟨by omega, fun hn => absurd rfl hn⟩

/-- The rest of a selector whose beginning is `left`. -/
def complexFrom (left : Complex) (pieces : List Piece) : Reading Complex :=
  if left.endsInPseudoElement then .ok (left, pieces.dropWhile Piece.isBlankOrComment)
  else match _h : nextCombinator pieces with
    | (none, rest) => .ok (left, rest)
    | (some combinator, rest) =>
      match _hc : compound rest with
      | .error failure => .error failure
      | .ok (parts, rest') => complexFrom (.joined left combinator parts) rest'
termination_by pieces.length
decreasing_by
  have h1 := (length_nextCombinator pieces).2 (by simp [_h])
  have h2 := length_left_compound_le rest
  rw [_h] at h1
  rw [_hc] at h2
  simp only [Reading.left] at h1 h2
  omega

theorem length_left_complexFrom_le (left : Complex) (pieces : List Piece) :
    (complexFrom left pieces).left.length ≤ pieces.length := by
  fun_induction complexFrom left pieces with
  | case1 left pieces =>
    exact (List.dropWhile_sublist Piece.isBlankOrComment (l := pieces)).length_le
  | case2 left pieces _ rest h =>
    have := (length_nextCombinator pieces).1
    rw [h] at this
    exact this
  | case3 left pieces _ combinator rest h failure hc =>
    have h1 := (length_nextCombinator pieces).1
    have h2 := length_left_compound_le rest
    rw [h] at h1
    rw [hc] at h2
    simp only [Reading.left] at h1 h2 ⊢
    omega
  | case4 left pieces _ combinator rest h parts rest' hc ih =>
    have h1 := (length_nextCombinator pieces).1
    have h2 := length_left_compound_le rest
    rw [h] at h1
    rw [hc] at h2
    simp only [Reading.left] at h1 h2 ih ⊢
    omega

/-- The pieces after a combinator that starts a relative selector. -/
def dropCombinator : List Piece → List Piece
  | [] => []
  | p :: rest => if (combinator? p).isSome then rest else p :: rest

/-- The pieces from the first compound selector on. A relative selector may start with a
combinator, which adds nothing. -/
def complexStart (relative : Bool) (pieces : List Piece) : List Piece :=
  let start := pieces.dropWhile Piece.isBlankOrComment
  if relative then (dropCombinator start).dropWhile Piece.isBlankOrComment else start

/-- One selector of a list. -/
def complex (relative : Bool) (pieces : List Piece) : Reading Complex :=
  match compound (complexStart relative pieces) with
  | .error failure => .error failure
  | .ok (parts, rest) => complexFrom (.compound parts) rest

theorem length_dropBlankOrComment_le (pieces : List Piece) :
    (pieces.dropWhile Piece.isBlankOrComment).length ≤ pieces.length :=
  (List.dropWhile_sublist Piece.isBlankOrComment).length_le

theorem length_dropCombinator_le (pieces : List Piece) :
    (dropCombinator pieces).length ≤ pieces.length := by
  unfold dropCombinator
  split
  · simp
  · split <;> simp

theorem length_complexStart_le (relative : Bool) (pieces : List Piece) :
    (complexStart relative pieces).length ≤ pieces.length := by
  have h1 := length_dropBlankOrComment_le pieces
  have h2 := length_dropCombinator_le (pieces.dropWhile Piece.isBlankOrComment)
  have h3 := length_dropBlankOrComment_le (dropCombinator (pieces.dropWhile Piece.isBlankOrComment))
  simp only [complexStart]
  split <;> omega

theorem length_left_complex_le (relative : Bool) (pieces : List Piece) :
    (complex relative pieces).left.length ≤ pieces.length := by
  have h1 := length_complexStart_le relative pieces
  have h2 := length_left_compound_le (complexStart relative pieces)
  unfold complex
  split
  · next failure h =>
    rw [h] at h2
    exact Nat.le_trans h2 h1
  · next parts rest h =>
    rw [h] at h2
    exact Nat.le_trans (length_left_complexFrom_le _ _) (Nat.le_trans h2 h1)

/-- The selectors after the first of a list, each after a comma. A forgiving list passes over
all that does not fit. -/
def members (forgiving relative : Bool) : List Piece → Except Mistake (List Complex)
  | [] => .ok []
  | p :: rest =>
    if p.isSign ',' then
      match _h : complex relative rest with
      | .ok (selector, left) => (members forgiving relative left).map (selector :: ·)
      | .error (.unfinished, _) => .error .unfinished
      | .error (.broken cause found, left) =>
        if forgiving then members forgiving relative left else .error (.broken cause found)
    else if forgiving then members forgiving relative rest
    else .error (.broken .unexpectedToken p.component)
termination_by pieces => pieces.length
decreasing_by
  · have := length_left_complex_le relative rest
    rw [_h] at this
    exact Nat.lt_succ_of_le this
  · have := length_left_complex_le relative rest
    rw [_h] at this
    exact Nat.lt_succ_of_le this
  · simp

/-- A list of selectors. A forgiving list whose first selector is broken is empty. -/
def list (forgiving relative : Bool) (pieces : List Piece) : Except Mistake (List Complex) :=
  match complex relative pieces with
  | .ok (selector, left) => (members forgiving relative left).map (selector :: ·)
  | .error (.unfinished, _) => .error .unfinished
  | .error (.broken cause found, _) =>
    if forgiving then .ok [] else .error (.broken cause found)

/-- The list in a logical pseudo-class, where selectors that end in a pseudo-element do not
count. -/
def arguments (opener : Opener) (content : List Piece) : Except Mistake (List Complex) :=
  match opener with
  | .block _ => .ok []
  | .function name =>
    match Logical.ofName? (Text.asciiLower name) with
    | none => .ok []
    | some function =>
      (list function.forgiving function.relative content).map fun selectors =>
        selectors.filter fun s => !s.endsInPseudoElement

/-- Component values with the arguments of logical pseudo-classes read, innermost first. -/
def pieces : List Component → List Piece
  | [] => []
  | .leaf position token :: rest => .plain (.leaf position token) :: pieces rest
  | .block position opener content :: rest =>
    ⟨.block position opener content, arguments opener (pieces content)⟩ :: pieces rest
termination_by components => sizeOf components

/-- A list of selectors, every one of which has to be right. -/
def ofComponents (components : List Component) : Except Mistake (List Complex) :=
  list false false (pieces components)

end StyleScore.Selector
