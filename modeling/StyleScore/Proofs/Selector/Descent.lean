import StyleScore.Proofs.Selector.Combining
import StyleScore.Selector.Specificity

/-!
A selector put below another one. Reading a selector after a selector and a blank gives the one
below the other (`complex_descendant`), and the specificities add up, also in a list of selectors
below the same one (`greatest_attach`).
-/
namespace StyleScore

namespace Specificity

/-- No count is negative. -/
structure IsCount (s : Specificity) : Prop where
  ids : 0 ≤ s.ids
  classes : 0 ≤ s.classes
  types : 0 ≤ s.types

theorem add_assoc (a b c : Specificity) : (a.add b).add c = a.add (b.add c) := by
  simp only [add, Int.add_assoc]

theorem add_zero (a : Specificity) : a.add zero = a := by
  simp [add, zero]

theorem zero_add (a : Specificity) : zero.add a = a := by
  simp [add, zero]

theorem isCount_zero : zero.IsCount := ⟨Int.le_refl 0, Int.le_refl 0, Int.le_refl 0⟩

theorem IsCount.add {a b : Specificity} (first : a.IsCount) (second : b.IsCount) :
    (a.add b).IsCount :=
  ⟨Int.add_nonneg first.ids second.ids, Int.add_nonneg first.classes second.classes,
    Int.add_nonneg first.types second.types⟩

theorem IsCount.join {a b : Specificity} (first : a.IsCount) (second : b.IsCount) :
    (a.join b).IsCount := by
  unfold Specificity.join
  split
  · exact second
  · exact first

theorem join_zero {a : Specificity} (count : a.IsCount) : a.join zero = a := by
  obtain ⟨ids, classes, types⟩ := count
  refine if_neg ?_
  simp only [below, zero]
  grind

/-- Adding the same to both sides keeps the comparison. -/
theorem below_add (a b c : Specificity) : (a.add b).below (a.add c) = b.below c := by
  simp only [below, add]
  grind

theorem join_add (a b c : Specificity) : (a.add b).join (a.add c) = a.add (b.join c) := by
  unfold join
  rw [below_add]
  split
  · rfl
  · rfl

end Specificity

namespace Selector

mutual

theorem Simple.isCount_specificity : (s : Simple) → s.specificity.IsCount
  | .universal => Specificity.isCount_zero
  | .typeName _ => by constructor <;> simp [Simple.specificity]
  | .idName _ => by constructor <;> simp [Simple.specificity]
  | .className _ => by constructor <;> simp [Simple.specificity]
  | .attributeName _ => by constructor <;> simp [Simple.specificity]
  | .pseudoClass _ => by constructor <;> simp [Simple.specificity]
  | .pseudoElement _ => by constructor <;> simp [Simple.specificity]
  | .logical .unweighted _ => Specificity.isCount_zero
  | .logical .oneOf members => isCount_greatest members
  | .logical .has members => isCount_greatest members
  | .logical .not members => isCount_greatest members

theorem Complex.isCount_specificity : (s : Complex) → s.specificity.IsCount
  | .compound parts => isCount_sum parts
  | .joined left _ parts => (Complex.isCount_specificity left).add (isCount_sum parts)

theorem isCount_sum : (parts : List Simple) → (sum parts).IsCount
  | [] => Specificity.isCount_zero
  | part :: parts => (Simple.isCount_specificity part).add (isCount_sum parts)

theorem isCount_greatest : (selectors : List Complex) → (greatest selectors).IsCount
  | [] => Specificity.isCount_zero
  | selector :: selectors =>
    (Complex.isCount_specificity selector).join (isCount_greatest selectors)

end

/-- The selector, as a descendant of `left`. -/
def Complex.attach (left : Complex) : Complex → Complex
  | .compound parts => .joined left .descendant parts
  | .joined inner combinator parts => .joined (attach left inner) combinator parts

theorem Complex.lastParts_attach (left s : Complex) : (attach left s).lastParts = s.lastParts := by
  cases s <;> rfl

theorem Complex.endsInPseudoElement_attach (left s : Complex) :
    (attach left s).endsInPseudoElement = s.endsInPseudoElement := by
  rw [endsInPseudoElement, endsInPseudoElement, lastParts_attach]

theorem Complex.specificity_attach (left : Complex) :
    (s : Complex) → (attach left s).specificity = left.specificity.add s.specificity
  | .compound parts => by rw [attach, specificity, specificity]
  | .joined inner combinator parts => by
    rw [attach, specificity, specificity, specificity_attach left inner, Specificity.add_assoc]

theorem greatest_singleton (s : Complex) : greatest [s] = s.specificity := by
  rw [greatest, greatest, Specificity.join_zero (Complex.isCount_specificity s)]

/-- The greatest of selectors below the same one is the greatest of them, below that one. -/
theorem greatest_attach (left : Complex) {selectors : List Complex} (filled : selectors ≠ []) :
    greatest (selectors.map left.attach) = left.specificity.add (greatest selectors) := by
  induction selectors with
  | nil => exact absurd rfl filled
  | cons s selectors ih =>
    cases selectors with
    | nil =>
      rw [List.map_singleton, greatest_singleton, greatest_singleton, Complex.specificity_attach]
    | cons t selectors =>
      rw [List.map_cons, greatest, ih (List.cons_ne_nil t selectors), Complex.specificity_attach,
        Specificity.join_add, ← greatest]

/-! ### Reading after a blank -/

variable {ps : List Piece}

/-- A combinator or a comma starts no compound selector. -/
theorem compoundAt_sign {p : Piece} {c : Char} {rest : List Piece} (sign : p.isSign c = true)
    (mark : c ∈ [',', '>', '+', '~']) :
    compoundAt (p :: rest) = broken .noCompound (some p) (p :: rest) := by
  obtain ⟨component, members⟩ := p
  obtain ⟨position, rfl⟩ := exists_literal (of_decide_eq_true sign)
  simp only [List.mem_cons, List.not_mem_nil, or_false] at mark
  rcases mark with rfl | rfl | rfl | rfl <;>
    simp [compoundAt, qualifiedName, simples_eq, simple]

/-- The rest of a selector is read in the same way when its beginning lies below another
selector. -/
theorem complexFrom_attach (left base : Complex) (ps : List Piece) :
    complexFrom (left.attach base) ps =
      (complexFrom base ps).map fun (s, rest) => (left.attach s, rest) := by
  induction length : ps.length using Nat.strongRecOn generalizing base ps with
  | ind n ih =>
    rw [complexFrom_eq, complexFrom_eq base, Complex.endsInPseudoElement_attach]
    split
    · rfl
    · have bound := (length_nextCombinator ps).2
      cases found : nextCombinator ps with
      | mk combinator rest =>
        rw [found] at bound
        cases combinator with
        | none => rfl
        | some combinator =>
          have less := length_left_compound_le rest
          dsimp only
          cases read : compound rest with
          | error failure => rfl
          | ok reading =>
            obtain ⟨parts, after⟩ := reading
            rw [read] at less
            have shorter : after.length < n := by
              have := bound (by simp)
              simp only [Reading.left] at less this
              omega
            exact ih after.length shorter (.joined base combinator parts) after rfl

/-- A selector behind a blank is read as a descendant of what stands before. -/
theorem complex_descendant {left selector : Complex} {blank : Piece}
    (goesOn : left.endsInPseudoElement = false) (isBlank : blank.isBlank = true)
    (success : complex false ps = .ok (selector, [])) :
    complexFrom left (blank :: ps) = .ok (left.attach selector, []) := by
  rw [complex_eq] at success
  cases read : compound (ps.dropWhile Piece.isBlankOrComment) with
  | error failure => rw [read] at success; cases success
  | ok reading =>
    obtain ⟨parts, after⟩ := reading
    have others : complexFrom (.compound parts) after = .ok (selector, []) := by
      rw [read] at success
      exact success
    have skipped := isBlankOrComment_of_isBlank isBlank
    have solid := List.head?_dropWhile_not Piece.isBlankOrComment ps
    cases start : ps.dropWhile Piece.isBlankOrComment with
    | nil =>
      rw [start, compound_eq, List.dropWhile_nil, compoundAt_nil] at read
      cases read
    | cons p tail =>
      rw [start] at read solid
      have filled : p.isBlank = false := by
        simp_all [Piece.isBlank, Piece.isBlankOrComment, Component.isBlank,
          Component.isBlankOrComment]
      rw [compound_eq, List.dropWhile_cons_of_neg (by simp [filled])] at read
      have noSign (c : Char) (mark : c ∈ [',', '>', '+', '~']) : p.isSign c = false := by
        cases sign : p.isSign c with
        | false => rfl
        | true =>
          rw [compoundAt_sign sign mark] at read
          cases read
      have found : nextCombinator (blank :: ps) = (some .descendant, p :: tail) := by
        unfold nextCombinator
        rw [List.dropWhile_cons_of_pos skipped, start, List.takeWhile_cons_of_pos skipped,
          List.any_cons, isBlank]
        simp [noSign, combinator?]
      have onward := complexFrom_attach left (.compound parts) after
      rw [complexFrom_eq, goesOn, found, if_neg Bool.false_ne_true]
      dsimp only
      rw [compound_eq, List.dropWhile_cons_of_neg (by simp [filled]), read]
      exact onward.trans (by rw [others]; rfl)

end Selector
end StyleScore
