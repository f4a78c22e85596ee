import StyleScore.Header.Basic
import StyleScore.Proofs.Text.Lower
import StyleScore.Proofs.Text.Search
import StyleScore.Proofs.Text.Spacing

/-!
Tidied headers. Whatever the header was, its tidied text is in lower case, has no blank next to
another one, at a colon or at an end (`isTight_tidy`), and so has every piece between spaces: a
piece is tidy already (`tidy_of_mem_pieces`). Only the first space behind an opening bracket and the
first before a closing one are taken out, so tidying again shortens a text that still has one
(`IsTight.length_tidy_lt`).
-/
namespace StyleScore.Header

open Text (IsLowercase IsTrimmed Lone Fits SolidStart SolidEnd isBlank collapseBlanks replaceFirst
    tightenColons
  splitAt)

variable {text : Text}

/-- In lower case, and spaced as tidying leaves it. -/
structure IsTight (text : Text) : Prop where
  lowercase : IsLowercase text
  spaced : text.IsChain Fits
  trimmed : text.IsTrimmed

/-! ### The steps of tidying -/

/-- The first opening bracket that a space follows, without it. -/
def tightenOpening (text : Text) : Text := replaceFirst ['(', ' '] ['('] text

/-- The first closing bracket behind a space, without it. -/
def tightenClosing (text : Text) : Text := replaceFirst [' ', ')'] [')'] text

theorem tidy_eq (text : Text) :
    tidy text =
      (tightenColons (tightenClosing (tightenOpening (collapseBlanks text.lower)))).trim := rfl

theorem tightenOpening_cons {c : Char} (other : c ≠ '(') (text : Text) :
    tightenOpening (c :: text) = c :: tightenOpening text := by
  have apart : ¬([c].getLast? = some '(' ∧ text.head? = some ' ') :=
    fun meets => other (Option.some.inj meets.1)
  exact Text.replaceFirst_pair_append_right (by simp [List.infix_cons_iff]) apart

theorem tightenClosing_bracket (rest : Text) : tightenClosing (' ' :: ')' :: rest) = ')' :: rest :=
  Text.replaceFirst_pair_cons ' ' ')' rest

theorem tightenClosing_cons {c : Char} (apart : ¬(c = ' ' ∧ text.head? = some ')')) :
    tightenClosing (c :: text) = c :: tightenClosing text := by
  have meets : ¬([c].getLast? = some ' ' ∧ text.head? = some ')') := by simpa using apart
  exact Text.replaceFirst_pair_append_right (by simp [List.infix_cons_iff]) meets

theorem solidStart_lower (solid : SolidStart text) : SolidStart text.lower := by
  rw [Text.solidStart_iff, Text.isSign_isBlank.head?_lower]
  exact Text.solidStart_iff.1 solid

theorem solidEnd_lower (solid : SolidEnd text) : SolidEnd text.lower := by
  rw [Text.solidEnd_iff, Text.isSign_isBlank.getLast?_lower]
  exact Text.solidEnd_iff.1 solid

theorem head?_tightenOpening (text : Text) : (tightenOpening text).head? = text.head? := by
  unfold tightenOpening replaceFirst
  split
  · next before rest found =>
    rw [Text.cutAt_append found]
    cases before <;> rfl
  · rfl

theorem getLast?_tightenOpening (solid : SolidEnd text) :
    (tightenOpening text).getLast? = text.getLast? := by
  unfold tightenOpening replaceFirst
  split
  · next before rest found =>
    have whole := Text.cutAt_append found
    have filled : rest ≠ [] := by
      rintro rfl
      have last : text.getLast? = some ' ' := by rw [whole]; simp
      cases solid ' ' last
    rw [whole, List.getLast?_append_of_ne_nil _ filled, List.getLast?_append_of_ne_nil _ filled]
  · rfl

theorem head?_tightenClosing (solid : SolidStart text) :
    (tightenClosing text).head? = text.head? := by
  unfold tightenClosing replaceFirst
  split
  · next before rest found =>
    have whole := Text.cutAt_append found
    cases before with
    | nil =>
      have first : text.head? = some ' ' := by rw [whole]; rfl
      cases solid ' ' first
    | cons c before =>
      rw [whole]
      rfl
  · rfl

theorem getLast?_tightenClosing (text : Text) : (tightenClosing text).getLast? = text.getLast? := by
  unfold tightenClosing replaceFirst
  split
  · next before rest found =>
    rw [Text.cutAt_append found]
    simp [List.getLast?_append]
  · rfl

theorem isChain_tightenOpening (lone : text.IsChain Lone) : (tightenOpening text).IsChain Lone := by
  unfold tightenOpening replaceFirst
  split
  · next before rest found =>
    rw [Text.cutAt_append found, List.append_assoc] at lone
    obtain ⟨front, back⟩ := List.isChain_split.1 lone
    rw [List.append_assoc]
    refine List.isChain_split.2 ⟨front, ?_⟩
    exact back.of_cons.of_cons.cons fun _ _ blank => by cases blank
  · exact lone

theorem isChain_tightenClosing (lone : text.IsChain Lone) : (tightenClosing text).IsChain Lone := by
  unfold tightenClosing replaceFirst
  split
  · next before rest found =>
    rw [Text.cutAt_append found, List.append_assoc] at lone
    obtain ⟨front, back⟩ := List.isChain_split.1 lone
    rw [List.append_assoc]
    exact List.IsChain.append front.left_of_append back.of_cons fun _ _ _ first _ => by
      cases first; rfl
  · exact lone

theorem isChain_trim (spaced : text.IsChain Fits) : text.trim.IsChain Fits := by
  obtain ⟨before, after, whole⟩ := Text.trim_isInfix text
  rw [← whole] at spaced
  exact spaced.left_of_append.right_of_append

/-- Tidying brings nothing into a text in lower case but spaces. -/
theorem mem_lower_of_mem_tidy {c : Char} (member : c ∈ tidy text) : c = ' ' ∨ c ∈ text.lower := by
  rw [tidy_eq] at member
  have closed := Text.mem_of_mem_tightenColons (Text.mem_of_mem_trim member)
  have opened := Text.mem_of_mem_replaceFirst (by simp) closed
  exact Text.mem_of_mem_collapseBlanks (Text.mem_of_mem_replaceFirst (by simp) opened)

theorem isTight_tidy (text : Text) : IsTight (tidy text) := by
  have lone :=
    isChain_tightenClosing (isChain_tightenOpening (Text.isChain_collapseBlanks text.lower))
  refine ⟨fun c member => ?_, ?_, Text.isTrimmed_trim _⟩
  · rcases mem_lower_of_mem_tidy member with rfl | inside
    · decide +kernel
    · exact Text.isLowercase_lower text c inside
  · exact isChain_trim (Text.isChain_tightenColons lone)

/-! ### Texts that are tidy already -/

theorem IsTight.lone (tight : IsTight text) : text.IsChain Lone :=
  tight.spaced.imp fun _ _ fits blank => (fits.1 blank).1

/-- Tidying leaves a tight text alone, if no space stands inside a bracket. -/
theorem IsTight.tidy_eq_self (tight : IsTight text) (opening : ¬['(', ' '] <:+: text)
    (closing : ¬[' ', ')'] <:+: text) : tidy text = text := by
  rw [tidy_eq, Text.lower_of_isLowercase tight.lowercase, Text.collapseBlanks_of_isChain tight.lone,
    tightenOpening, Text.replaceFirst_of_absent opening, tightenClosing,
    Text.replaceFirst_of_absent closing, Text.tightenColons_of_isChain tight.spaced,
    Text.trim_of_isTrimmed tight.trimmed]

theorem IsTight.of_mem_splitAt (tight : IsTight text) {piece : Text}
    (member : piece ∈ splitAt ' ' text) :
    IsTight piece := by
  obtain ⟨before, after, rfl, left, right⟩ := Text.exists_of_mem_splitAt member
  have whole := tight.spaced
  rw [List.append_assoc] at whole
  refine ⟨tight.lowercase.of_subset fun c inside => by simp [inside],
    tight.spaced.left_of_append.right_of_append, ?_, ?_⟩
  · intro c first
    cases last : before.getLast? with
    | none =>
      obtain rfl := List.getLast?_eq_none_iff.1 last
      exact tight.trimmed.1 c (by simp [List.head?_append, Option.mem_def.1 first])
    | some space =>
      have fits :=
        (List.isChain_append.1 whole).2.2 space last c (by simp [List.head?_append,
          Option.mem_def.1 first])
      exact (fits.1 (by rw [left space last]; rfl)).1
  · intro c last
    cases first : after.head? with
    | none =>
      obtain rfl := List.head?_eq_none_iff.1 first
      exact tight.trimmed.2 c (by simp [List.getLast?_append, Option.mem_def.1 last])
    | some space =>
      have fits := (List.isChain_append.1 (List.isChain_append.1 whole).2.1).2.2 c last space first
      rw [right space first] at fits
      by_contra blank
      rw [Bool.not_eq_false] at blank
      cases (fits.1 blank).1

/-- The pieces of a tight text are tidy. -/
theorem IsTight.tidy_of_mem_splitAt (tight : IsTight text) {piece : Text}
    (member : piece ∈ splitAt ' ' text) :
    tidy piece = piece := by
  have solid : ' ' ∉ piece := Text.not_mem_of_mem_splitAt member
  apply (tight.of_mem_splitAt member).tidy_eq_self
  · intro inside
    exact solid (inside.subset (by simp))
  · intro inside
    exact solid (inside.subset (by simp))

theorem tidy_of_mem_pieces {header piece : Text} (member : piece ∈ splitAt ' ' (tidy header)) :
    tidy piece = piece :=
  (isTight_tidy header).tidy_of_mem_splitAt member

/-! ### Tidying twice -/

theorem length_tightenOpening (padded : ['(', ' '] <:+: text) :
    (tightenOpening text).length + 1 = text.length := by
  have size : (tightenOpening text).length + 2 = text.length + 1 := Text.length_replaceFirst padded
  omega

theorem length_tightenClosing (padded : [' ', ')'] <:+: text) :
    (tightenClosing text).length + 1 = text.length := by
  have size : (tightenClosing text).length + 2 = text.length + 1 := Text.length_replaceFirst padded
  omega

theorem length_tightenClosing_le (text : Text) : (tightenClosing text).length ≤ text.length := by
  by_cases padded : [' ', ')'] <:+: text
  · have size := length_tightenClosing padded
    omega
  · rw [tightenClosing, Text.replaceFirst_of_absent padded]

/-- A tight text with a space inside a bracket gets shorter. -/
theorem IsTight.length_tidy_lt (tight : IsTight text)
    (padded : ['(', ' '] <:+: text ∨ [' ', ')'] <:+: text) :
    (tidy text).length < text.length := by
  have trimmed :=
    (Text.trim_isInfix (tightenColons (tightenClosing (tightenOpening text)))).length_le
  have tightened := (Text.tightenColons_sublist (tightenClosing (tightenOpening text))).length_le
  rw [tidy_eq, Text.lower_of_isLowercase tight.lowercase, Text.collapseBlanks_of_isChain tight.lone]
  by_cases opening : ['(', ' '] <:+: text
  · have shorter := length_tightenOpening opening
    have kept := length_tightenClosing_le (tightenOpening text)
    omega
  · have same : tightenOpening text = text := Text.replaceFirst_of_absent opening
    have shorter := length_tightenClosing (padded.resolve_left opening)
    rw [same] at trimmed tightened ⊢
    omega

/-- Whatever a header was, once tidied it has no blank at an end, next to another one or at a colon.
Tidying it again changes nothing just when no space stands inside a bracket: only the first such
space of either kind was taken away. -/
theorem tidy_tidy_iff (header : Text) :
    (tidy header).IsTrimmed ∧
    (∀ c d, [c, d] <:+: tidy header → ¬(isBlank c = true ∧ isBlank d = true)) ∧
    (∀ w, isBlank w = true → ¬[w, ':'] <:+: tidy header ∧ ¬[':', w] <:+: tidy header) ∧
    (tidy (tidy header) = tidy header ↔ ¬['(', ' '] <:+: tidy header ∧
      ¬[' ', ')'] <:+: tidy header) := by
  have tight := isTight_tidy header
  have fits {c d : Char} (inside : [c, d] <:+: tidy header) : Fits c d := by
    obtain ⟨before, after, whole⟩ := inside
    rw [List.append_assoc] at whole
    exact List.isChain_iff_forall_rel_of_append_cons_cons.1 tight.spaced whole.symm
  refine ⟨tight.trimmed, ?_, ?_, ?_, ?_⟩
  · rintro c d inside ⟨blank, blankToo⟩
    rw [((fits inside).1 blank).1] at blankToo
    cases blankToo
  · intro w blank
    refine ⟨fun inside => ((fits inside).1 blank).2 rfl, fun inside => ?_⟩
    rw [(fits inside).2 rfl] at blank
    cases blank
  · intro same
    by_contra padded
    have shorter := tight.length_tidy_lt (by tauto)
    rw [same] at shorter
    exact Nat.lt_irrefl _ shorter
  · rintro ⟨opening, closing⟩
    exact tight.tidy_eq_self opening closing

end StyleScore.Header
