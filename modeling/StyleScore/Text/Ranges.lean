/-!
Membership of a code point in a sorted table of ranges.
-/
namespace StyleScore.Text

/-- Some range of the table holds `n`. The ranges rise, so the search stops at the first range
that starts above `n`. -/
def inRanges (n : Nat) : List (Nat × Nat) → Bool
  | [] => false
  | (first, last) :: table => if n < first then false else n ≤ last || inRanges n table

end StyleScore.Text
