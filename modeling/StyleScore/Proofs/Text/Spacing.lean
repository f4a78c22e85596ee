import Mathlib.Data.List.Chain
import StyleScore.Proofs.Text.Collapse

/-!
How texts are spaced. After runs of blanks have become one space no two blanks stand side by side
(`isChain_collapseBlanks`), and after colons have been tightened no blank stands at a colon either
(`isChain_tightenColons`); a text that is spaced in this way is left alone. Both passes treat the
two sides of a lone blank apart (`collapseBlanks_append_blank`, `tightenColons_append_blank`).
-/
namespace StyleScore.Text

/-- Of two neighbours at most one is blank. -/
def Lone (c d : Char) : Prop := isBlank c = true → isBlank d = false

/-- Two neighbours of which at most one is blank, and none at a colon. -/
def Fits (c d : Char) : Prop :=
  (isBlank c = true → isBlank d = false ∧ d ≠ ':') ∧ (c = ':' → isBlank d = false)

/-- The text starts with a character that is not blank, if it is not empty. -/
def SolidStart (text : Text) : Prop := ∀ c ∈ text.head?, isBlank c = false

/-- The text ends in a character that is not blank, if it is not empty. -/
def SolidEnd (text : Text) : Prop := ∀ c ∈ text.getLast?, isBlank c = false

variable {c w : Char} {front back rest text : Text}

theorem solidStart_iff : SolidStart text ↔ text.head?.any isBlank = false := by
  unfold SolidStart
  cases text.head? <;> simp

theorem solidEnd_iff : SolidEnd text ↔ text.getLast?.any isBlank = false := by
  unfold SolidEnd
  cases text.getLast? <;> simp

theorem SolidStart.of_head? {other : Text} (solid : SolidStart text)
    (same : other.head? = text.head?) :
    SolidStart other :=
  fun c first => solid c (same ▸ first)

theorem SolidEnd.of_getLast? {other : Text} (solid : SolidEnd text)
    (same : other.getLast? = text.getLast?) :
    SolidEnd other :=
  fun c last => solid c (same ▸ last)

theorem SolidEnd.of_cons (solid : SolidEnd (c :: text)) : SolidEnd text := by
  intro d last
  cases text with
  | nil => cases last
  | cons e text => exact solid d (by rwa [List.getLast?_cons_cons])

theorem SolidEnd.ne_nil (solid : SolidEnd (c :: text)) (blank : isBlank c = true) : text ≠ [] := by
  rintro rfl
  rw [solid c rfl] at blank
  cases blank

theorem head?_trim (solid : SolidStart text) : (trim text).head? = text.head? := by
  cases text with
  | nil => rfl
  | cons c text =>
    have cut := trim_append_cons (solid c rfl) [] text
    rw [List.nil_append] at cut
    rw [cut]
    rfl

theorem getLast?_trim (solid : SolidEnd text) : (trim text).getLast? = text.getLast? := by
  rcases List.eq_nil_or_concat text with rfl | ⟨before, c, rfl⟩
  · rfl
  · have black : isBlank c = false := solid c (by simp)
    rw [List.concat_eq_append, trim_append_cons black, List.getLast?_concat]
    simp [trimEnd]

/-- A text, and the blanks at its end. -/
theorem exists_append_blanks (text : Text) :
    ∃ core after, text = core ++ after ∧ SolidEnd core ∧ ∀ c ∈ after, isBlank c = true :=
  ⟨trimEnd text, (text.reverse.takeWhile isBlank).reverse, (trimEnd_append_eq text).symm,
    fun c last => trimEnd_getLast text c last,
    fun _ member => List.mem_takeWhile_imp (List.mem_reverse.1 member)⟩

/-- A text, and the blanks at its start. -/
theorem exists_blanks_append (text : Text) :
    ∃ before core, text = before ++ core ∧ (∀ c ∈ before, isBlank c = true) ∧ SolidStart core := by
  refine ⟨text.takeWhile isBlank, trimStart text, (trimStart_append_eq text).symm,
    fun _ => List.mem_takeWhile_imp, ?_⟩
  intro c first
  have black := List.head?_dropWhile_not isBlank text
  rw [← trimStart, Option.mem_def.1 first] at black
  simpa using black

theorem getLast?_cons_congr {other : Text} (same : text.getLast? = other.getLast?) :
    (c :: text).getLast? = (c :: other).getLast? := by
  rw [List.getLast?_cons, List.getLast?_cons, same]

theorem ne_colon_of_isBlank (blank : isBlank c = true) : c ≠ ':' := by
  rintro rfl
  cases blank

/-! ### Runs of blanks -/

theorem head?_collapseBlanks (solid : SolidStart text) :
    (collapseBlanks text).head? = text.head? := by
  cases text with
  | nil => rw [collapseBlanks_nil]
  | cons c text => rw [collapseBlanks_of_solid (solid c rfl), List.head?_cons, List.head?_cons]

theorem getLast?_collapseBlanks (solid : SolidEnd text) :
    (collapseBlanks text).getLast? = text.getLast? := by
  fun_induction collapseBlanks text with
  | case1 => rfl
  | case2 c => rfl
  | case3 c d rest blanks ih =>
    obtain ⟨e, rest, rfl⟩ :=
      List.exists_cons_of_ne_nil (solid.of_cons.ne_nil (Bool.and_eq_true_iff.1 blanks).2)
    have later : SolidEnd (' ' :: e :: rest) := by simpa [SolidEnd] using solid
    rw [ih later]
    simp
  | case4 c d rest _ ih => exact getLast?_cons_congr (ih solid.of_cons)

theorem isChain_collapseBlanks (text : Text) : (collapseBlanks text).IsChain Lone := by
  fun_induction collapseBlanks text with
  | case1 => exact .nil
  | case2 c => exact .singleton c
  | case3 c d rest _ ih => exact ih
  | case4 c d rest apart ih =>
    refine ih.cons fun e first blank => ?_
    have black : isBlank d = false := by simpa [blank] using apart
    rw [collapseBlanks_of_solid black] at first
    cases first
    exact black

theorem collapseBlanks_of_isChain (lone : text.IsChain Lone) : collapseBlanks text = text := by
  induction text with
  | nil => exact collapseBlanks_nil
  | cons c text ih =>
    obtain ⟨next, others⟩ := List.isChain_cons.1 lone
    cases blank : isBlank c with
    | false => rw [collapseBlanks_of_solid blank, ih others]
    | true => rw [collapseBlanks_lone fun d first => next d first blank, ih others]

/-- Behind a character that is not blank, runs are counted anew. -/
theorem collapseBlanks_append (solid : SolidEnd front) (back : Text) :
    collapseBlanks (front ++ back) = collapseBlanks front ++ collapseBlanks back := by
  fun_induction collapseBlanks front with
  | case1 => rfl
  | case2 c => exact collapseBlanks_of_solid (solid c rfl) back
  | case3 c d rest blanks ih =>
    obtain ⟨e, rest, rfl⟩ :=
      List.exists_cons_of_ne_nil (solid.of_cons.ne_nil (Bool.and_eq_true_iff.1 blanks).2)
    have later : SolidEnd (' ' :: e :: rest) := by simpa [SolidEnd] using solid
    rw [← ih later, List.cons_append, List.cons_append, collapseBlanks_cons_cons, if_pos blanks]
    rfl
  | case4 c d rest apart ih =>
    rw [List.cons_append, List.cons_append, collapseBlanks_cons_cons, if_neg apart,
      ← List.cons_append, ih solid.of_cons, List.cons_append]

/-- Runs of blanks on the two sides of a lone blank are counted apart. -/
theorem collapseBlanks_append_blank (left : SolidEnd front) (right : SolidStart back) :
    collapseBlanks (front ++ w :: back) = collapseBlanks front ++ w :: collapseBlanks back := by
  rw [collapseBlanks_append left, collapseBlanks_lone right]

theorem collapseBlanks_run_end {d : Char} {run : Text}
    (blank : ∀ e ∈ c :: d :: run, isBlank e = true) :
    collapseBlanks (c :: d :: run) = [' '] := by
  have whole : collapseBlanks (c :: d :: run ++ []) = ' ' :: collapseBlanks [] :=
    collapseBlanks_run blank (by simp)
  rwa [List.append_nil, collapseBlanks_nil] at whole

/-- A run of blanks ends where the next character is not blank. -/
theorem collapseBlanks_blanks_append {gap : Text} (blank : ∀ c ∈ gap, isBlank c = true)
    (right : SolidStart back) :
    collapseBlanks (gap ++ back) = collapseBlanks gap ++ collapseBlanks back := by
  rcases gap with _ | ⟨c, _ | ⟨d, run⟩⟩
  · rw [List.nil_append, collapseBlanks_nil, List.nil_append]
  · rw [List.singleton_append, collapseBlanks_lone right, collapseBlanks_singleton,
      List.singleton_append]
  · rw [collapseBlanks_run blank right, collapseBlanks_run_end blank, List.singleton_append]

theorem collapseBlanks_gap {gap : Text} (blank : ∀ c ∈ gap, isBlank c = true) (space : ' ' ∈ gap) :
    collapseBlanks gap = [' '] := by
  rcases gap with _ | ⟨c, _ | ⟨d, run⟩⟩
  · cases space
  · rw [collapseBlanks_singleton, List.mem_singleton.1 space]
  · exact collapseBlanks_run_end blank

theorem mem_of_mem_collapseBlanks (member : c ∈ collapseBlanks text) : c = ' ' ∨ c ∈ text := by
  fun_induction collapseBlanks text with
  | case1 => cases member
  | case2 d => exact .inr member
  | case3 d e rest _ ih =>
    rcases ih member with space | later
    · exact .inl space
    · rcases List.mem_cons.1 later with space | later
      · exact .inl space
      · exact .inr (by simp [later])
  | case4 d e rest _ ih =>
    rcases List.mem_cons.1 member with rfl | later
    · exact .inr List.mem_cons_self
    · exact (ih later).imp_right (List.mem_cons_of_mem d)

/-! ### Blanks at colons -/

theorem tightenColons_nil : tightenColons [] = [] := by rw [tightenColons.eq_def]

theorem tightenColons_colon (rest : Text) :
    tightenColons (':' :: rest) = ':' :: tightenColons (dropBlank rest) := by
  rw [tightenColons.eq_def]
  rfl

theorem tightenColons_of_solid (black : isBlank c = false) (other : c ≠ ':') (rest : Text) :
    tightenColons (c :: rest) = c :: tightenColons rest := by
  rw [tightenColons.eq_def]
  simp [other, black]

theorem tightenColons_of_blank (blank : isBlank w = true) (rest : Text) :
    tightenColons (w :: rest) = if rest.head? = some ':' then tightenColons rest else w ::
      tightenColons rest := by
  rw [tightenColons.eq_def]
  simp [ne_colon_of_isBlank blank, blank]

theorem dropBlank_of_solidStart (solid : SolidStart text) : dropBlank text = text := by
  cases text with
  | nil => rfl
  | cons c text => simp [dropBlank, solid c rfl]

theorem head?_tightenColons (solid : SolidStart text) :
    (tightenColons text).head? = text.head? := by
  cases text with
  | nil => rw [tightenColons_nil]
  | cons c text =>
    by_cases colon : c = ':'
    · rw [colon, tightenColons_colon]
      rfl
    · rw [tightenColons_of_solid (solid c rfl) colon]
      rfl

theorem isChain_tightenColons (lone : text.IsChain Lone) : (tightenColons text).IsChain Fits := by
  fun_induction tightenColons text with
  | case1 => exact .nil
  | case2 rest ih =>
    -- What follows the colon is not blank, since one blank is dropped and no two are neighbours.
    have solid : SolidStart (dropBlank rest) ∧ (dropBlank rest).IsChain Lone := by
      have others := lone.of_cons
      cases rest with
      | nil => exact ⟨by simp [SolidStart, dropBlank], others⟩
      | cons d rest =>
        cases blank : isBlank d with
        | false => simpa [SolidStart, dropBlank, blank] using others
        | true =>
          obtain ⟨next, others⟩ := List.isChain_cons.1 others
          simpa [SolidStart, dropBlank, blank] using ⟨fun e first => next e first blank, others⟩
    refine (ih solid.2).cons fun d first => ⟨by simp [isBlank], fun _ => ?_⟩
    rw [head?_tightenColons solid.1] at first
    exact solid.1 d first
  | case3 c rest _ _ ih => exact ih lone.of_cons
  | case4 c rest other apart ih =>
    obtain ⟨next, others⟩ := List.isChain_cons.1 lone
    refine (ih others).cons fun d first => ⟨fun blank => ?_, fun colon => absurd colon other⟩
    have solid : SolidStart rest := fun e start => next e start blank
    rw [head?_tightenColons solid] at first
    refine ⟨solid d first, ?_⟩
    rintro rfl
    exact apart (by simp [blank, Option.mem_def.1 first])

theorem tightenColons_of_isChain (fits : text.IsChain Fits) : tightenColons text = text := by
  induction text with
  | nil => exact tightenColons_nil
  | cons c text ih =>
    obtain ⟨next, others⟩ := List.isChain_cons.1 fits
    cases blank : isBlank c with
    | false =>
      by_cases colon : c = ':'
      · subst colon
        rw [tightenColons_colon, dropBlank_of_solidStart fun d first => (next d first).2 rfl,
          ih others]
      · rw [tightenColons_of_solid blank colon, ih others]
    | true =>
      have apart : text.head? ≠ some ':' := fun first => ((next ':' first).1 blank).2 rfl
      rw [tightenColons_of_blank blank, if_neg apart, ih others]

/-- Behind a character that is not blank, colons are tightened anew; one at the end takes a blank
with it. -/
theorem tightenColons_append (solid : SolidEnd front) (back : Text) :
    tightenColons (front ++ back) =
      tightenColons front ++
        tightenColons (if front.getLast? = some ':' then dropBlank back else back) := by
  fun_induction tightenColons front with
  | case1 => simp
  | case2 rest ih =>
    rw [List.cons_append, tightenColons_colon]
    cases rest with
    | nil => simp [dropBlank, tightenColons_nil]
    | cons d rest =>
      cases blank : isBlank d with
      | false =>
        have whole : dropBlank (d :: rest ++ back) = dropBlank (d :: rest) ++ back := by
          simp [dropBlank, blank]
        rw [whole, ih]
        · simp [dropBlank, blank]
        · simpa [dropBlank, blank] using solid.of_cons
      | true =>
        obtain ⟨e, rest, rfl⟩ := List.exists_cons_of_ne_nil (solid.of_cons.ne_nil blank)
        have whole : dropBlank (d :: e :: rest ++ back) = dropBlank (d :: e :: rest) ++ back := by
          simp [dropBlank, blank]
        rw [whole, ih]
        · simp [dropBlank, blank]
        · simpa [dropBlank, blank] using solid.of_cons.of_cons
  | case3 c rest _ both ih =>
    obtain ⟨blank, colon⟩ := Bool.and_eq_true_iff.1 both
    obtain ⟨e, rest, rfl⟩ := List.exists_cons_of_ne_nil (solid.ne_nil blank)
    have first : (e :: rest ++ back).head? = some ':' := by simpa using colon
    rw [List.cons_append, tightenColons_of_blank blank, if_pos first, ih solid.of_cons]
    simp
  | case4 c rest other apart ih =>
    cases blank : isBlank c with
    | false =>
      rw [List.cons_append, tightenColons_of_solid blank other]
      cases rest with
      | nil => simp [other, tightenColons_nil]
      | cons e rest =>
        rw [ih solid.of_cons]
        simp
    | true =>
      obtain ⟨e, rest, rfl⟩ := List.exists_cons_of_ne_nil (solid.ne_nil blank)
      have first : (e :: rest ++ back).head? ≠ some ':' := by simpa [blank] using apart
      rw [List.cons_append, tightenColons_of_blank blank, if_neg first, ih solid.of_cons]
      simp

/-- A lone blank stays unless a colon stands at it. -/
theorem tightenColons_append_blank (blank : isBlank w = true) (left : SolidEnd front)
    (back : Text) :
    tightenColons (front ++ w :: back) = tightenColons front ++
      if front.getLast? = some ':' ∨
        back.head? = some ':' then tightenColons back else w :: tightenColons back := by
  rw [tightenColons_append left]
  by_cases before : front.getLast? = some ':'
  · simp [before, dropBlank, blank]
  · simp [before, tightenColons_of_blank blank]

theorem dropBlank_sublist (text : Text) : (dropBlank text).Sublist text := by
  cases text with
  | nil => exact .slnil
  | cons c rest =>
    rw [dropBlank]
    split
    · exact List.sublist_cons_self c rest
    · exact .refl _

/-- Colons lose blanks, and nothing else changes. -/
theorem tightenColons_sublist (text : Text) : (tightenColons text).Sublist text := by
  fun_induction tightenColons text with
  | case1 => exact .slnil
  | case2 rest ih => exact (ih.trans (dropBlank_sublist rest)).cons_cons ':'
  | case3 c rest _ _ ih => exact ih.cons c
  | case4 c rest _ _ ih => exact ih.cons_cons c

theorem mem_of_mem_tightenColons (member : c ∈ tightenColons text) : c ∈ text :=
  (tightenColons_sublist text).subset member

theorem getLast?_tightenColons (solid : SolidEnd text) :
    (tightenColons text).getLast? = text.getLast? := by
  fun_induction tightenColons text with
  | case1 => rfl
  | case2 rest ih =>
    cases rest with
    | nil => simp [dropBlank, tightenColons_nil]
    | cons d rest =>
      cases blank : isBlank d with
      | false =>
        have kept : dropBlank (d :: rest) = d :: rest := by simp [dropBlank, blank]
        rw [kept] at ih ⊢
        exact getLast?_cons_congr (ih solid.of_cons)
      | true =>
        obtain ⟨e, rest, rfl⟩ := List.exists_cons_of_ne_nil (solid.of_cons.ne_nil blank)
        have dropped : dropBlank (d :: e :: rest) = e :: rest := by simp [dropBlank, blank]
        rw [dropped] at ih ⊢
        rw [getLast?_cons_congr (ih solid.of_cons.of_cons)]
        simp
  | case3 c rest _ both ih =>
    obtain ⟨e, rest, rfl⟩ :=
      List.exists_cons_of_ne_nil (solid.ne_nil (Bool.and_eq_true_iff.1 both).1)
    rw [ih solid.of_cons, List.getLast?_cons_cons]
  | case4 c rest _ _ ih => exact getLast?_cons_congr (ih solid.of_cons)

theorem exists_tightenColons_cons (solid : SolidStart text) (filled : text ≠ []) :
    ∃ c rest, tightenColons text = c :: rest ∧ isBlank c = false := by
  obtain ⟨c, first⟩ := Option.ne_none_iff_exists'.1 (mt List.head?_eq_none_iff.1 filled)
  obtain ⟨rest, starts⟩ : ∃ rest, tightenColons text = c :: rest := by
    rw [← List.head?_eq_some_iff, head?_tightenColons solid]
    exact first
  exact ⟨c, rest, starts, solid c first⟩

theorem exists_tightenColons_concat (solid : SolidEnd text) (filled : text ≠ []) :
    ∃ front c, tightenColons text = front ++ [c] ∧ isBlank c = false := by
  obtain ⟨c, last⟩ := Option.ne_none_iff_exists'.1 (mt List.getLast?_eq_none_iff.1 filled)
  obtain ⟨front, ends⟩ : ∃ front, tightenColons text = front ++ [c] := by
    rw [← List.getLast?_eq_some_iff, getLast?_tightenColons solid]
    exact last
  exact ⟨front, c, ends, solid c last⟩

end StyleScore.Text
