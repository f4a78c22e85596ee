import StyleScore.Text.Blank
import StyleScore.Text.Lowercase

/-!
Small letters: a text in lower case has no capital of ASCII, and neither has a text that is tidied
after that.
-/
namespace StyleScore.Text

/-- No capital of ASCII stands in the text. -/
def IsSmall (text : Text) : Prop := ∀ c ∈ text, c.toLower = c

theorem IsSmall.of_subset {text whole : Text} (subset : ∀ c ∈ text, c ∈ whole)
    (small : IsSmall whole) :
    IsSmall text :=
  fun c member => small c (subset c member)

theorem toLower_eq_of_not_capital {c : Char} (low : c.toNat < 65 ∨ 90 < c.toNat) :
    c.toLower = c := by
  unfold Char.toLower
  have plain : ¬(c.val ≥ 65 ∧ c.val ≤ 90) := by
    simp only [ge_iff_le, UInt32.le_iff_toNat_le]
    change ¬(65 ≤ c.toNat ∧ c.toNat ≤ 90)
    omega
  exact dif_neg plain

theorem toNat_ofNat_or (n : Nat) : (Char.ofNat n).toNat = n ∨ (Char.ofNat n).toNat = 0 := by
  by_cases valid : n.isValidChar
  · left
    rw [Char.ofNat, dif_pos valid]
    rfl
  · right
    rw [Char.ofNat, dif_neg valid]
    rfl

/-- The small letters in the table lie behind the capitals of ASCII. -/
theorem lowerFromRuns_above {n : Nat} (runs : List CapitalRun) (high : 90 < n)
    (behind : ∀ run ∈ runs, 90 < (run.first : Int) + run.shift) : 90 < lowerFromRuns n runs := by
  induction runs with
  | nil => exact high
  | cons run runs ih =>
    have own := behind run (by simp)
    simp only [lowerFromRuns]
    split
    · exact high
    · split
      · omega
      · exact ih fun other member => behind other (by simp [member])

theorem behind_capitalRuns : ∀ run ∈ capitalRuns, 90 < (run.first : Int) + run.shift := by
  decide +kernel

theorem toLower_toLower_of_ascii {c : Char} (ascii : c.toNat < 128) :
    c.toLower.toLower = c.toLower := by
  have all : ∀ n < 128, (Char.ofNat n).toLower.toLower = (Char.ofNat n).toLower := by decide +kernel
  have own := all c.toNat ascii
  rwa [Char.ofNat_toNat] at own

theorem toLower_lowerChar (c : Char) : (lowerChar c).toLower = lowerChar c := by
  unfold lowerChar
  split
  · next low => exact toLower_toLower_of_ascii (UInt32.lt_iff_toNat_lt.1 low)
  · next high =>
    have above : 90 < c.toNat := by
      rw [UInt32.not_lt, UInt32.le_iff_toNat_le] at high
      exact Nat.lt_of_lt_of_le (by decide) high
    have small := lowerFromRuns_above capitalRuns above behind_capitalRuns
    apply toLower_eq_of_not_capital
    rcases toNat_ofNat_or (lowerFromRuns c.toNat capitalRuns) with same | zero
    · rw [same]
      exact .inr small
    · rw [zero]
      exact .inl (by decide)

theorem isSmall_lowerAfter (before text : Text) : IsSmall (lowerAfter before text) := by
  induction text generalizing before with
  | nil => simp [lowerAfter, IsSmall]
  | cons c rest ih =>
    intro d member
    rw [lowerAfter, List.mem_append] at member
    rcases member with here | later
    · split at here
      · split at here <;> (rw [List.mem_singleton.1 here]; decide)
      · split at here
        · rcases List.mem_cons.1 here with rfl | here
          · decide
          · rw [List.mem_singleton.1 here]
            decide
        · rw [List.mem_singleton.1 here]
          exact toLower_lowerChar c
    · exact ih _ d later

theorem isSmall_lower (text : Text) : IsSmall (lower text) := isSmall_lowerAfter [] text

theorem IsSmall.collapseBlanks {text : Text} (small : IsSmall text) :
    IsSmall (collapseBlanks text) := by
  fun_induction Text.collapseBlanks text with
  | case1 => exact small
  | case2 c => exact small
  | case3 c d rest blanks ih =>
    apply ih
    intro e member
    rcases List.mem_cons.1 member with rfl | later
    · decide
    · exact small e (by simp [later])
  | case4 c d rest solid ih =>
    intro e member
    rcases List.mem_cons.1 member with rfl | later
    · exact small e (by simp)
    · exact ih (small.of_subset fun _ inside => by simp_all) e later

theorem mem_of_mem_trim {c : Char} {text : Text} (member : c ∈ trim text) : c ∈ text := by
  have start : (trimStart text).Sublist text := List.dropWhile_sublist _
  have fin : (trim text).reverse.Sublist (trimStart text).reverse := by
    rw [trim, trimEnd, List.reverse_reverse]
    exact List.dropWhile_sublist _
  have backwards : c ∈ (trimStart text).reverse := fin.subset (List.mem_reverse.2 member)
  exact start.subset (List.mem_reverse.1 backwards)

theorem IsSmall.trim {text : Text} (small : IsSmall text) : IsSmall (trim text) :=
  small.of_subset fun _ => mem_of_mem_trim

end StyleScore.Text
