import Mathlib.Data.List.TakeWhile
import StyleScore.Text.Blank

/-!
Trimmed texts: neither the first nor the last character is blank. `trim` gives such a text
(`isTrimmed_trim`), an empty one for blanks alone (`trim_eq_nil_iff`), and leaves everything between
two characters that are not blank as it is (`trim_between`).
-/
namespace StyleScore.Text

/-- No blank at either end. -/
def IsTrimmed (text : Text) : Prop :=
  (∀ c ∈ text.head?, isBlank c = false) ∧ ∀ c ∈ text.getLast?, isBlank c = false

theorem trimStart_append_eq (text : Text) :
    text.takeWhile isBlank ++ trimStart text = text :=
  List.takeWhile_append_dropWhile

theorem trimEnd_append_eq (text : Text) :
    trimEnd text ++ (text.reverse.takeWhile isBlank).reverse = text := by
  rw [trimEnd, ← List.reverse_append, List.takeWhile_append_dropWhile, List.reverse_reverse]

/-- What trimming drops is blank. -/
theorem exists_around_trim (text : Text) :
    ∃ before after, (∀ c ∈ before, isBlank c = true) ∧ (∀ c ∈ after, isBlank c = true) ∧
      before ++ trim text ++ after = text := by
  refine ⟨text.takeWhile isBlank, ((trimStart text).reverse.takeWhile isBlank).reverse, ?_, ?_, ?_⟩
  · exact fun c member => List.mem_takeWhile_imp member
  · exact fun c member => List.mem_takeWhile_imp (List.mem_reverse.1 member)
  · rw [List.append_assoc, trim, trimEnd_append_eq, trimStart_append_eq]

theorem trimEnd_isPrefix (text : Text) : trimEnd text <+: text :=
  ⟨_, trimEnd_append_eq text⟩

theorem trim_isInfix (text : Text) : trim text <:+: text :=
  (trimEnd_isPrefix _).isInfix.trans (List.dropWhile_suffix isBlank).isInfix

theorem trimStart_of_solid {text : Text} (solid : ∀ c ∈ text.head?, isBlank c = false) :
    trimStart text = text := by
  cases text with
  | nil => rfl
  | cons c text => simp [trimStart, solid c rfl]

theorem trim_of_isTrimmed {text : Text} (trimmed : text.IsTrimmed) : trim text = text := by
  have backwards : trimStart text.reverse = text.reverse :=
    trimStart_of_solid (by simpa using trimmed.2)
  rw [trim, trimStart_of_solid trimmed.1, trimEnd, ← trimStart, backwards, List.reverse_reverse]

theorem isTrimmed_trim (text : Text) : (trim text).IsTrimmed := by
  refine ⟨fun c first => ?_, fun c last => trim_getLast text c last⟩
  have start : (trimStart text).head? = some c := by
    obtain ⟨after, split⟩ := trimEnd_isPrefix (trimStart text)
    rw [← split, List.head?_append]
    have first : (trimEnd (trimStart text)).head? = some c := first
    rw [first, Option.some_or]
  have unblank := List.head?_dropWhile_not isBlank text
  rw [trimStart] at start
  rw [start] at unblank
  simpa using unblank

theorem trim_eq_nil_iff (text : Text) : trim text = [] ↔ ∀ c ∈ text, isBlank c = true := by
  have all (text : Text) : text.dropWhile isBlank = [] ↔ ∀ c ∈ text, isBlank c = true :=
    List.dropWhile_eq_nil_iff
  rw [trim, trimEnd, List.reverse_eq_nil_iff, all]
  simp only [List.mem_reverse]
  constructor
  · intro rest c member
    rw [← trimStart_append_eq text, List.mem_append] at member
    rcases member with lead | kept
    · exact List.mem_takeWhile_imp lead
    · exact rest c kept
  · intro blank c kept
    exact blank c ((List.dropWhile_sublist isBlank).subset kept)

theorem trim_ne_nil_of_mem {text : Text} {c : Char} (member : c ∈ text)
    (black : isBlank c = false) :
    trim text ≠ [] := by
  intro empty
  have blank := (trim_eq_nil_iff text).1 empty c member
  cases black.symm.trans blank

theorem trim_cons_blank {w : Char} (blank : isBlank w = true) (text : Text) :
    trim (w :: text) = trim text := by
  rw [trim, trimStart, List.dropWhile_cons_of_pos blank]
  rfl

theorem trimStart_append_cons {c : Char} (black : isBlank c = false) (text rest : Text) :
    trimStart (text ++ c :: rest) = trimStart text ++ c :: rest := by
  induction text with
  | nil => exact List.dropWhile_cons_of_neg (by simp [black])
  | cons d text ih =>
    rw [trimStart] at ih
    by_cases blank : isBlank d = true
    · simpa [trimStart, blank] using ih
    · simp [trimStart, blank]

theorem trimEnd_append_cons {c : Char} (black : isBlank c = false) (text rest : Text) :
    trimEnd (text ++ c :: rest) = text ++ c :: trimEnd rest := by
  have turned := trimStart_append_cons black rest.reverse text.reverse
  rw [trimStart, trimStart] at turned
  rw [trimEnd, trimEnd, List.reverse_append, List.reverse_cons, List.append_assoc,
    List.singleton_append, turned]
  simp

theorem trim_append_cons {c : Char} (black : isBlank c = false) (text rest : Text) :
    trim (text ++ c :: rest) = trimStart text ++ c :: trimEnd rest := by
  rw [trim, trimStart_append_cons black, trimEnd_append_cons black]

/-- Blanks behind a text are cut off with its own. -/
theorem trim_append_blanks {after : Text} (blank : ∀ c ∈ after, isBlank c = true) (text : Text) :
    trim (text ++ after) = trim text := by
  by_cases all : ∀ c ∈ text, isBlank c = true
  · rw [(trim_eq_nil_iff text).2 all, trim_eq_nil_iff]
    exact List.forall_mem_append.2 ⟨all, blank⟩
  · obtain ⟨c, member, black⟩ : ∃ c ∈ text, isBlank c = false := by simpa using all
    obtain ⟨front, back, rfl⟩ := List.append_of_mem member
    have cut : trimEnd (back ++ after) = trimEnd back := by
      rw [trimEnd, List.reverse_append,
        List.dropWhile_append_of_pos fun c inside => blank c (List.mem_reverse.1 inside)]
      rfl
    rw [List.append_assoc, List.cons_append, trim_append_cons black, trim_append_cons black, cut]

theorem length_trimEnd_le (before text : Text) :
    (trimEnd text).length ≤ (trimEnd (before ++ text)).length := by
  rw [trimEnd, trimEnd, List.length_reverse, List.length_reverse, List.reverse_append,
    List.dropWhile_append]
  split
  · next blank => simp [List.isEmpty_iff.1 blank]
  · simp

/-- A text with more before it that is not blank is longer when both are trimmed. -/
theorem length_trim_lt {before : Text} {c : Char} (member : c ∈ before) (black : isBlank c = false)
    (text : Text) :
    (trim text).length < (trim (before ++ text)).length := by
  obtain ⟨front, back, rfl⟩ := List.append_of_mem member
  have start : (trim text).length ≤ (trimEnd text).length := by
    have cut := length_trimEnd_le (text.takeWhile isBlank) (trimStart text)
    rwa [trimStart_append_eq] at cut
  have more := length_trimEnd_le back text
  rw [List.append_assoc, List.cons_append, trim_append_cons black, List.length_append,
    List.length_cons]
  omega

/-- What stands between two characters that are not blank is left as it is. -/
theorem trim_between {c d : Char} (black : isBlank c = false) (blackToo : isBlank d = false)
    (before between after : Text) : trim (before ++ c :: (between ++ d :: after)) =
      trimStart before ++ c :: (between ++ d :: trimEnd after) := by
  rw [trim_append_cons black, trimEnd_append_cons blackToo]

end StyleScore.Text
