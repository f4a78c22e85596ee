import Mathlib.Data.List.DropRight
import StyleScore.Proofs.Selector.Reading

/-!
Selectors with combinators, and lists of them. Places do not decide how a list is read
(`sameOutcome_ofComponents`). A selector before blanks and a comma is read as if nothing followed
(`ends_complex`), and one before a blank is read to its end and then continued
(`complex_continued`).
-/
namespace StyleScore.Selector

variable {more ps qs : List Piece}

/-! ### Combinators -/

theorem Piece.Same.combinator?_eq {p q : Piece} (same : p.Same q) :
    combinator? p = combinator? q := by
  rw [combinator?, combinator?, same.isSign_eq, same.isSign_eq, same.isSign_eq]

theorem any_takeWhile_eq (continues : Continues more ps qs)
    (solid : ps.dropWhile Piece.isBlankOrComment ≠ []) :
    (ps.takeWhile Piece.isBlankOrComment).any Piece.isBlank =
      (qs.takeWhile Piece.isBlankOrComment).any Piece.isBlank := by
  induction continues with
  | done => exact absurd rfl solid
  | @next p q ps qs same inner rest ih =>
    rw [List.dropWhile_cons] at solid
    rw [List.takeWhile_cons, List.takeWhile_cons, ← same.isBlankOrComment_eq]
    split at solid
    · next skipped => simp only [skipped, if_true, List.any_cons, same.isBlank_eq, ih solid]
    · next found => simp [found]

/-- Either only blanks are left and what follows decides, or the same combinator is found. -/
theorem nextCombinator_cases (continues : Continues more ps qs) :
    (ps.dropWhile Piece.isBlankOrComment = [] ∧ nextCombinator ps = (none, []) ∧
      qs.dropWhile Piece.isBlankOrComment = more.dropWhile Piece.isBlankOrComment) ∨
    ∃ combinator left other, nextCombinator ps = (combinator, left) ∧
      nextCombinator qs = (combinator, other) ∧
      Continues more left other ∧ (combinator = none → left ≠ []) := by
  rcases continues.dropWhile fun _ _ same => same.isBlankOrComment_eq with
    ⟨first, second⟩ | ⟨solid, rest⟩
  · left
    exact ⟨first, by simp only [nextCombinator, first], second⟩
  · right
    have blank := any_takeWhile_eq continues solid
    unfold nextCombinator
    rw [← blank]
    generalize ps.dropWhile Piece.isBlankOrComment = left,
      qs.dropWhile Piece.isBlankOrComment = other at solid rest
    cases rest with
    | done => exact absurd rfl solid
    | next same inner rest =>
      dsimp only
      rw [← same.isSign_eq, ← same.combinator?_eq]
      split
      · exact ⟨none, _, _, rfl, rfl, .next same inner rest, fun _ => List.cons_ne_nil _ _⟩
      · split
        · exact ⟨_, _, _, rfl, rfl, rest, nofun⟩
        · split
          · exact ⟨_, _, _, rfl, rfl, .next same inner rest, nofun⟩
          · exact ⟨none, _, _, rfl, rfl, .next same inner rest, fun _ => List.cons_ne_nil _ _⟩

theorem complexFrom_eq (left : Complex) (ps : List Piece) :
    complexFrom left ps =
      if left.endsInPseudoElement then .ok (left, ps.dropWhile Piece.isBlankOrComment)
      else match nextCombinator ps with
        | (none, rest) => .ok (left, rest)
        | (some combinator, rest) =>
          match compound rest with
          | .error failure => .error failure
          | .ok (parts, rest) => complexFrom (.joined left combinator parts) rest := by
  rw [complexFrom]
  split
  · rfl
  · split
    · next found => rw [found]
    · next found =>
      rw [found]
      dsimp only
      split <;> simp_all

/-- Comments do not hide the end. -/
theorem Closes.dropWhile_eq (closes : Closes more) :
    more.dropWhile Piece.isBlankOrComment = more.dropWhile Piece.isBlank := by
  induction more with
  | nil => rfl
  | cons p rest ih =>
    rw [List.dropWhile_cons, List.dropWhile_cons]
    by_cases blank : p.isBlank = true
    · rw [if_pos (isBlankOrComment_of_isBlank blank), if_pos blank]
      refine ih fun q head => closes q ?_
      rwa [List.dropWhile_cons, if_pos blank]
    · have comma : p.component.kind = .sign ',' :=
        closes p (by rw [List.dropWhile_cons, if_neg blank]; rfl)
      have found : ¬ p.isBlankOrComment = true := by
        simp [Piece.isBlankOrComment, Component.isBlankOrComment, comma, Kind.sign]
      rw [if_neg found, if_neg blank]

/-- The selector ends before what closes it. -/
theorem nextCombinator_of_closes (closes : Closes more)
    (same : ps.dropWhile Piece.isBlankOrComment = more.dropWhile Piece.isBlankOrComment) :
    nextCombinator ps = (none, more.dropWhile Piece.isBlankOrComment) := by
  rw [closes.dropWhile_eq] at same ⊢
  unfold nextCombinator
  rw [same]
  cases left : more.dropWhile Piece.isBlank with
  | nil => rfl
  | cons p rest =>
    have comma : p.isSign ',' = true := by
      rw [Piece.isSign, closes p (by rw [left]; rfl)]
      rfl
    exact if_pos comma

/-- Readings that agree up to the end: where one reads all, the other comes to what closes the
selector. -/
inductive Ends (more : List Piece) {α : Type} : Reading α → Reading α → Prop where
  | all (value : α) :
      Ends more (.ok (value, [])) (.ok (value, more.dropWhile Piece.isBlankOrComment))
  | early (value : α) {left other : List Piece} (rest : Continues more left other)
      (solid : left ≠ []) : Ends more (.ok (value, left)) (.ok (value, other))
  | error {first second : Mistake} {left other : List Piece}
      (rest : more = [] → (first = .unfinished ↔ second = .unfinished) ∧
        Continues more left other) :
      Ends more (.error (first, left)) (.error (second, other))

theorem Ends.agree {α : Type} {first second : Reading α} (ends : Ends [] first second) :
    Agree [] first second := by
  cases ends with
  | all value => exact .ok .done
  | early value rest => exact .ok rest
  | error rest => exact .error rest

theorem ends_complexFrom (stops : Stops more) (closes : Closes more) (left : Complex)
    (continues : Continues more ps qs) : Ends more (complexFrom left ps) (complexFrom left qs) := by
  induction length : ps.length using Nat.strongRecOn generalizing left ps qs with
  | ind n ih =>
    rw [complexFrom_eq left ps, complexFrom_eq left qs]
    split
    · rcases continues.dropWhile fun _ _ same => same.isBlankOrComment_eq with
        ⟨first, second⟩ | ⟨solid, rest⟩
      · rw [first, second]
        exact .all left
      · exact .early left rest solid
    · rcases nextCombinator_cases continues with
        ⟨-, first, second⟩ | ⟨combinator, rest, other, first, second, further, solid⟩
      · rw [first, nextCombinator_of_closes closes second]
        exact .all left
      · have bound := (length_nextCombinator ps).2
        rw [first] at bound ⊢
        rw [second]
        cases combinator with
        | none => exact .early left further (solid rfl)
        | some combinator =>
          have agree := agree_compound stops further (.inr closes)
          have less := length_left_compound_le rest
          dsimp only
          generalize compound rest = reading, compound other = reading' at agree less
          cases agree with
          | error rest => exact .error rest
          | @ok parts after after' behind =>
            refine ih after.length ?_ _ behind rfl
            have := bound (by simp)
            simp only [Reading.left] at less this
            omega

/-- Blanks before a blank or a comma do not change what follows. -/
theorem nextCombinator_skip (stops : Stops more) (continues : Continues more ps qs)
    (blank : ps.dropWhile Piece.isBlankOrComment = []) :
    nextCombinator qs = nextCombinator more := by
  have same : qs.dropWhile Piece.isBlankOrComment = more.dropWhile Piece.isBlankOrComment := by
    rcases continues.dropWhile fun _ _ same => same.isBlankOrComment_eq with
      ⟨-, second⟩ | ⟨solid, -⟩
    · exact second
    · exact absurd blank solid
  rcases stops.cases with rfl | ⟨position, token, members, rest, rfl, ⟨text, rfl⟩ | rfl⟩
  · unfold nextCombinator
    rw [same]
    rfl
  · have found : (qs.takeWhile Piece.isBlankOrComment).any Piece.isBlank = true := by
      clear same
      induction continues with
      | done => rfl
      | @next p q ps qs equal _ _ ih =>
        rw [List.dropWhile_cons] at blank
        split at blank
        · next skipped =>
          rw [List.takeWhile_cons, ← equal.isBlankOrComment_eq, if_pos skipped,
            List.any_cons, ih blank, Bool.or_true]
        · cases blank
    unfold nextCombinator
    rw [same, found]
    rfl
  · unfold nextCombinator
    rw [same]
    rfl

/-- A selector before a blank or a comma is read to its end and then continued from there. -/
theorem complexFrom_continued (stops : Stops more) {left selector : Complex}
    (continues : Continues more ps qs) (success : complexFrom left ps = .ok (selector, []))
    (goesOn : selector.endsInPseudoElement = false) :
    complexFrom left qs = complexFrom selector more := by
  induction length : ps.length using Nat.strongRecOn generalizing left ps qs with
  | ind n ih =>
    rw [complexFrom_eq left ps] at success
    split at success
    · next last =>
      obtain ⟨rfl, -⟩ := Prod.mk.inj (Except.ok.inj success)
      rw [goesOn] at last
      cases last
    · next further =>
      rcases nextCombinator_cases continues with
        ⟨blank, first, -⟩ | ⟨combinator, rest, other, first, second, onward, solid⟩
      · rw [first] at success
        obtain ⟨rfl, -⟩ := Prod.mk.inj (Except.ok.inj success)
        rw [complexFrom_eq left qs, complexFrom_eq left more,
          nextCombinator_skip stops continues blank, if_neg further, if_neg further]
      · have bound := (length_nextCombinator ps).2
        rw [first] at success bound
        cases combinator with
        | none =>
          obtain ⟨-, none⟩ := Prod.mk.inj (Except.ok.inj success)
          exact absurd none (solid rfl)
        | some combinator =>
          have less := length_left_compound_le rest
          cases read : compound rest with
          | error failure => simp only [read] at success; cases success
          | ok reading =>
            obtain ⟨parts, after⟩ := reading
            have agree := agree_compound stops onward (.inl (dropWhile_ne_nil_of_compound read))
            rw [complexFrom_eq left qs, if_neg further, second]
            dsimp only
            simp only [read] at success less agree
            generalize compound other = reading' at agree
            cases agree with
            | ok behind =>
              refine ih after.length ?_ behind success rfl
              have := bound (by simp)
              simp only [Reading.left] at less this
              omega

/-! ### Selectors of a list -/

theorem complex_eq (ps : List Piece) :
    complex false ps =
      match compound (ps.dropWhile Piece.isBlankOrComment) with
      | .error failure => .error failure
      | .ok (parts, rest) => complexFrom (.compound parts) rest := rfl

/-- A selector that is closed is read as if nothing followed. -/
theorem ends_complex (stops : Stops more) (closes : Closes more)
    (continues : Continues more ps qs) :
    Ends more (complex false ps) (complex false qs) := by
  have agree : Agree more (compound (ps.dropWhile Piece.isBlankOrComment))
      (compound (qs.dropWhile Piece.isBlankOrComment)) := by
    rcases continues.dropWhile fun _ _ same => same.isBlankOrComment_eq with
      ⟨first, second⟩ | ⟨-, rest⟩
    · have nothing := agree_compound stops .done (.inr closes)
      rw [first, second, closes.dropWhile_eq, compound_eq (more.dropWhile _),
        List.dropWhile_idempotent]
      exact nothing
    · exact agree_compound stops rest (.inr closes)
  rw [complex_eq, complex_eq]
  generalize compound (ps.dropWhile Piece.isBlankOrComment) = first,
    compound (qs.dropWhile Piece.isBlankOrComment) = second at agree
  cases agree with
  | error rest => exact .error rest
  | ok rest => exact ends_complexFrom stops closes _ rest

theorem complex_continued (stops : Stops more) {selector : Complex}
    (continues : Continues more ps qs) (success : complex false ps = .ok (selector, []))
    (goesOn : selector.endsInPseudoElement = false) :
    complex false qs = complexFrom selector more := by
  rw [complex_eq] at success ⊢
  rcases continues.dropWhile fun _ _ same => same.isBlankOrComment_eq with
    ⟨first, -⟩ | ⟨-, rest⟩
  · rw [first, compound_eq, List.dropWhile_nil, compoundAt_nil] at success
    cases success
  · cases read : compound (ps.dropWhile Piece.isBlankOrComment) with
    | error failure => simp only [read] at success; cases success
    | ok reading =>
      obtain ⟨parts, left⟩ := reading
      have agree := agree_compound stops rest (.inl (dropWhile_ne_nil_of_compound read))
      simp only [read] at success agree
      generalize compound (qs.dropWhile Piece.isBlankOrComment) = reading' at agree
      cases agree with
      | ok behind => exact complexFrom_continued stops behind success goesOn

/-! ### Places -/

theorem Closes.nil : Closes [] := by
  rintro p ⟨⟩

theorem Continues.dropBlanksAndComments (continues : Continues [] ps qs) :
    Continues [] (ps.dropWhile Piece.isBlankOrComment) (qs.dropWhile Piece.isBlankOrComment) := by
  rcases continues.dropWhile fun _ _ same => same.isBlankOrComment_eq with
    ⟨first, second⟩ | ⟨-, rest⟩
  · rw [first, second]
    exact .done
  · exact rest

theorem continues_complexStart (relative : Bool) (continues : Continues [] ps qs) :
    Continues [] (complexStart relative ps) (complexStart relative qs) := by
  have start := continues.dropBlanksAndComments
  have past : Continues [] (dropCombinator (ps.dropWhile Piece.isBlankOrComment))
      (dropCombinator (qs.dropWhile Piece.isBlankOrComment)) := by
    generalize ps.dropWhile Piece.isBlankOrComment = first,
      qs.dropWhile Piece.isBlankOrComment = second at start
    cases start with
    | done => exact .done
    | next same inner rest =>
      simp only [dropCombinator, same.combinator?_eq]
      split
      · exact rest
      · exact .next same inner rest
  cases relative with
  | true => exact past.dropBlanksAndComments
  | false => exact start

theorem agree_complex (relative : Bool) (continues : Continues [] ps qs) :
    Agree [] (complex relative ps) (complex relative qs) := by
  have agree := agree_compound .nil (continues_complexStart relative continues) (.inr .nil)
  unfold complex
  generalize compound (complexStart relative ps) = first,
    compound (complexStart relative qs) = second at agree
  cases agree with
  | error rest => exact .error rest
  | ok rest => exact (ends_complexFrom .nil .nil _ rest).agree

theorem members_eq (forgiving relative : Bool) (p : Piece) (rest : List Piece) :
    members forgiving relative (p :: rest) =
      if p.isSign ',' then
        match complex relative rest with
        | .ok (selector, left) => (members forgiving relative left).map (selector :: ·)
        | .error (.unfinished, _) => .error .unfinished
        | .error (.broken cause found, left) =>
          if forgiving then members forgiving relative left else .error (.broken cause found)
      else if forgiving then members forgiving relative rest
      else .error (.broken .unexpectedToken p.component) := by
  rw [members]
  split
  · split <;> simp_all
  · rfl

theorem sameOutcome_members (forgiving relative : Bool) (continues : Continues [] ps qs) :
    SameOutcome (members forgiving relative ps) (members forgiving relative qs) := by
  induction length : ps.length using Nat.strongRecOn generalizing ps qs with
  | ind n ih =>
    cases continues with
    | done => exact .refl _
    | @next p q ps qs same _ rest =>
      have shorter := length_left_complex_le relative ps
      have agree := agree_complex relative rest
      rw [List.length_cons] at length
      rw [members_eq, members_eq, same.isSign_eq]
      split
      · generalize complex relative ps = first, complex relative qs = second at agree shorter
        cases agree with
        | @ok selector left other rest =>
          exact (ih left.length (length ▸ Nat.lt_succ_of_le shorter) rest rfl).map (selector :: ·)
        | @error first second left other behind =>
          obtain ⟨kind, onward⟩ := behind rfl
          cases first with
          | unfinished =>
            rw [kind.1 rfl]
            exact .error Iff.rfl
          | broken cause found =>
            cases second with
            | unfinished => cases kind.2 rfl
            | broken cause' found' =>
              cases forgiving with
              | true => exact ih left.length (length ▸ Nat.lt_succ_of_le shorter) onward rfl
              | false => exact .error ⟨nofun, nofun⟩
      · cases forgiving with
        | true => exact ih ps.length (length ▸ Nat.lt_succ_self _) rest rfl
        | false => exact .error ⟨nofun, nofun⟩

theorem sameOutcome_list (forgiving relative : Bool) (continues : Continues [] ps qs) :
    SameOutcome (list forgiving relative ps) (list forgiving relative qs) := by
  have agree := agree_complex relative continues
  unfold list
  generalize complex relative ps = first, complex relative qs = second at agree
  cases agree with
  | @ok selector left other rest =>
    exact (sameOutcome_members forgiving relative rest).map (selector :: ·)
  | @error first second left other rest =>
    obtain ⟨kind, -⟩ := rest rfl
    cases first with
    | unfinished =>
      rw [kind.1 rfl]
      exact .error Iff.rfl
    | broken cause found =>
      cases second with
      | unfinished => cases kind.2 rfl
      | broken cause' found' =>
        cases forgiving with
        | true => exact .ok []
        | false => exact .error ⟨nofun, nofun⟩

theorem sameOutcome_arguments (opener : Opener) (continues : Continues [] ps qs) :
    SameOutcome (arguments opener ps) (arguments opener qs) := by
  cases opener with
  | block bracket => exact .ok []
  | function name =>
    simp only [arguments]
    split
    · exact .ok []
    · exact (sameOutcome_list _ _ continues).map _

theorem continues_pieces {content other : List Component}
    (same : content.map Component.bare = other.map Component.bare) :
    Continues [] (pieces content) (pieces other) := by
  fun_induction pieces content generalizing other with
  | case1 =>
    cases other with
    | nil => rw [pieces]; exact .done
    | cons d other => cases same
  | case2 position token rest ih =>
    cases other with
    | nil => cases same
    | cons d other =>
      obtain ⟨first, others⟩ := List.cons.inj same
      rw [Component.bare_leaf] at first
      cases d with
      | leaf second token' =>
        rw [Component.bare_leaf] at first
        obtain rfl := (Component.leaf.inj first).2
        rw [pieces]
        exact .next (.leaf position second token _ _) (absurd rfl) (ih others)
      | block second opener content =>
        rw [Component.bare_block] at first
        cases first
  | case3 position opener content rest ihContent ih =>
    cases other with
    | nil => cases same
    | cons d other =>
      obtain ⟨first, others⟩ := List.cons.inj same
      rw [Component.bare_block] at first
      cases d with
      | leaf second token =>
        rw [Component.bare_leaf] at first
        cases first
      | block second opener' inner =>
        rw [Component.bare_block] at first
        obtain ⟨-, rfl, inside⟩ := Component.block.inj first
        rw [pieces]
        have read := sameOutcome_arguments opener (ihContent inside)
        exact .next (.block position second opener inside read) (absurd rfl) (ih others)

/-- The places of component values do not decide how a list of selectors is read. -/
theorem sameOutcome_ofComponents {content other : List Component}
    (same : content.map Component.bare = other.map Component.bare) :
    SameOutcome (ofComponents content) (ofComponents other) :=
  sameOutcome_list false false (continues_pieces same)

end StyleScore.Selector
