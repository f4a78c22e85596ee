import StyleScore.Proofs.Header.Break

/-!
Headers side by side. Tidying looks at the whole text, but with a space between two headers it does
to each what it does to it alone, where no space stands inside a bracket and the two do not meet at
a bracket or a colon (`tidy_beside`). The tokens are then those of the one and those of the other,
and the weights add up (`tokens_beside`).
-/
namespace StyleScore.Header

open Text (SolidStart SolidEnd isBlank collapseBlanks tightenColons splitAt)

variable {text front back : Text}

/-! ### Spaces inside brackets -/

/-- No space stands inside a bracket once every run of blanks is one space. -/
structure Unpadded (text : Text) : Prop where
  opening : ¬['(', ' '] <:+: collapseBlanks text
  closing : ¬[' ', ')'] <:+: collapseBlanks text

theorem Unpadded.lower (unpadded : Unpadded text) : Unpadded text.lower := by
  refine ⟨fun inside => unpadded.opening ?_, fun inside => unpadded.closing ?_⟩
  · rw [← Text.lower_collapseBlanks] at inside
    exact Text.pair_of_lowerAfter (by decide) (Text.isSign_of_mem (by decide))
      Text.isSign_space inside
  · rw [← Text.lower_collapseBlanks] at inside
    exact Text.pair_of_lowerAfter (by decide) Text.isSign_space
      (Text.isSign_of_mem (by decide)) inside

theorem Unpadded.tidy_eq (unpadded : Unpadded text) :
    tidy text = (tightenColons (collapseBlanks text.lower)).trim := by
  rw [Header.tidy_eq, tightenOpening, Text.replaceFirst_of_absent unpadded.lower.opening,
    tightenClosing, Text.replaceFirst_of_absent unpadded.lower.closing]

/-! ### Where two headers meet -/

/-- The blanks around the space between two texts go into it, and the texts are squeezed each on its
own. -/
theorem exists_seam (front back : Text) : ∃ X Y after before,
    collapseBlanks front.lower = X ++ after ∧ SolidEnd X ∧ (∀ c ∈ after, isBlank c = true) ∧
    collapseBlanks back.lower = before ++ Y ∧ SolidStart Y ∧ (∀ c ∈ before, isBlank c = true) ∧
    collapseBlanks (front ++ ' ' :: back).lower = X ++ ' ' :: Y := by
  obtain ⟨core, after, rfl, left, blank⟩ := Text.exists_append_blanks front
  obtain ⟨before, rest, rfl, blankToo, right⟩ := Text.exists_blanks_append back
  have solid := solidEnd_lower left
  have solidToo := solidStart_lower right
  have gap : ∀ c ∈ after ++ ' ' :: before, isBlank c = true :=
    List.forall_mem_append.2 ⟨blank, List.forall_mem_cons.2 ⟨rfl, blankToo⟩⟩
  have squeezed {blanks : Text} (all : ∀ c ∈ blanks, isBlank c = true) : ∀ c ∈
      collapseBlanks blanks, isBlank c = true := by
    intro c member
    rcases Text.mem_of_mem_collapseBlanks member with rfl | own
    · rfl
    · exact all c own
  refine ⟨collapseBlanks core.lower, collapseBlanks rest.lower, collapseBlanks after,
    collapseBlanks before, ?_, solid.of_getLast? (Text.getLast?_collapseBlanks solid),
    squeezed blank, ?_, solidToo.of_head? (Text.head?_collapseBlanks solidToo),
    squeezed blankToo, ?_⟩
  · rw [Text.lower_append_blanks blank, Text.collapseBlanks_append solid]
  · rw [Text.lower_blanks_append blankToo, Text.collapseBlanks_blanks_append blankToo solidToo]
  · have regroup : core.lower ++ after ++ ' ' :: (before ++ rest.lower) =
        core.lower ++ ((after ++ ' ' :: before) ++ rest.lower) := by simp
    have space : isBlank ' ' = true := rfl
    rw [Text.lower_append_blank space, Text.lower_append_blanks blank,
      Text.lower_blanks_append blankToo, regroup, Text.collapseBlanks_append solid,
      Text.collapseBlanks_blanks_append gap solidToo, Text.collapseBlanks_gap gap (by simp),
      List.singleton_append]

theorem trim_tightenColons_append_blanks {after : Text} (solid : SolidEnd front)
    (blank : ∀ c ∈ after, isBlank c = true) :
    (tightenColons (front ++ after)).trim = (tightenColons front).trim := by
  rw [Text.tightenColons_append solid]
  refine Text.trim_append_blanks (fun c member => blank c ?_) _
  have kept := Text.mem_of_mem_tightenColons member
  split at kept
  · exact (Text.dropBlank_sublist after).subset kept
  · exact kept

theorem trim_tightenColons_blanks_append {before : Text} (blank : ∀ c ∈ before, isBlank c = true)
    (text : Text) :
    (tightenColons (before ++ text)).trim = (tightenColons text).trim := by
  induction before with
  | nil => rfl
  | cons w before ih =>
    obtain ⟨first, others⟩ := List.forall_mem_cons.1 blank
    rw [List.cons_append, Text.tightenColons_of_blank first]
    split
    · exact ih others
    · rw [Text.trim_cons_blank first, ih others]

/-- No space comes to stand inside a bracket where two texts meet. -/
theorem squeeze_seam {X Y : Text} (opening : ¬['(', ' '] <:+: X) (closing : ¬[' ', ')'] <:+: X)
    (openingToo : ¬['(', ' '] <:+: Y) (closingToo : ¬[' ', ')'] <:+: Y) (solid : SolidEnd X)
    (before : X.getLast? ≠ some '(') (behind : Y.head? ≠ some ')') :
    tightenClosing (tightenOpening (X ++ ' ' :: Y)) = X ++ ' ' :: Y := by
  have noOpening : tightenOpening (X ++ ' ' :: Y) = X ++ ' ' :: Y := by
    have later : tightenOpening (X ++ ' ' :: Y) = X ++ tightenOpening (' ' :: Y) :=
      Text.replaceFirst_pair_append_right opening fun meets => before meets.1
    have none : tightenOpening Y = Y := Text.replaceFirst_of_absent openingToo
    rw [later, tightenOpening_cons (by decide), none]
  have noClosing : tightenClosing (X ++ ' ' :: Y) = X ++ tightenClosing (' ' :: Y) :=
    Text.replaceFirst_pair_append_right closing fun meets => by cases solid ' ' meets.1
  have none : tightenClosing Y = Y := Text.replaceFirst_of_absent closingToo
  rw [noOpening, noClosing, tightenClosing_cons fun meets => behind meets.2, none]

/-- Two headers with a space between them are tidied each on its own; one that is blank adds
nothing. -/
theorem tidy_beside (left : Unpadded front) (right : Unpadded back)
    (ends : ∀ c ∈ (tidy front).getLast?, c ≠ '(' ∧ c ≠ ':')
    (starts : ∀ c ∈ (tidy back).head?, c ≠ ')' ∧ c ≠ ':') :
    (tidy front = [] ∧ tidy (front ++ ' ' :: back) = tidy back) ∨
      (tidy back = [] ∧ tidy (front ++ ' ' :: back) = tidy front) ∨
      tidy (front ++ ' ' :: back) = tidy front ++ ' ' :: tidy back := by
  obtain ⟨X, Y, after, before, first, solid, blank, second, solidToo, blankToo, whole⟩ :=
    exists_seam front back
  have frontAlone : tidy front = (tightenColons X).trim := by
    rw [left.tidy_eq, first, trim_tightenColons_append_blanks solid blank]
  have backAlone : tidy back = (tightenColons Y).trim := by
    rw [right.tidy_eq, second, trim_tightenColons_blanks_append blankToo]
  have last : (tidy front).getLast? = X.getLast? := by
    have same := Text.getLast?_tightenColons solid
    rw [frontAlone, Text.getLast?_trim (solid.of_getLast? same), same]
  have start : (tidy back).head? = Y.head? := by
    have same := Text.head?_tightenColons solidToo
    rw [backAlone, Text.head?_trim (solidToo.of_head? same), same]
  rw [last] at ends
  rw [start] at starts
  have inFront {pair : Text} (inside : pair <:+: X) : pair <:+: collapseBlanks front.lower :=
    inside.trans (first ▸ (List.prefix_append X after).isInfix)
  have inBack {pair : Text} (inside : pair <:+: Y) : pair <:+: collapseBlanks back.lower :=
    inside.trans (second ▸ (List.suffix_append before Y).isInfix)
  have joined : tidy (front ++ ' ' :: back) = (tightenColons (X ++ ' ' :: Y)).trim := by
    rw [tidy_eq, whole, squeeze_seam (mt inFront left.lower.opening) (mt inFront left.lower.closing)
      (mt inBack right.lower.opening) (mt inBack right.lower.closing) solid
      (fun bracket => (ends '(' bracket).1 rfl) fun bracket => (starts ')' bracket).1 rfl]
  have space : isBlank ' ' = true := rfl
  rw [joined, frontAlone, backAlone]
  by_cases edge : AtEdge X Y
  · rw [trim_of_atEdge edge solid space]
    rcases edge with rfl | rfl | colon | colon
    · exact .inl ⟨by rw [Text.tightenColons_nil]; rfl,
        by rw [Text.tightenColons_nil, List.nil_append]⟩
    · exact .inr (.inl ⟨by rw [Text.tightenColons_nil]; rfl,
        by rw [Text.tightenColons_nil, List.append_nil]⟩)
    · exact absurd rfl (ends ':' colon).2
    · exact absurd rfl (starts ':' colon).2
  · exact .inr (.inr (trim_of_not_atEdge edge solid solidToo space))

/-! ### Tokens and weight -/

theorem pieceTokens_append (first second : List Text) : pieceTokens (first ++ second) =
    (do return (← pieceTokens first) ++ (← pieceTokens second)) := by
  induction first with
  | nil =>
    rw [List.nil_append]
    cases pieceTokens second <;> rfl
  | cons piece first ih =>
    rw [List.cons_append, pieceTokens, pieceTokens, ih]
    cases pieceToken? piece with
    | error e => rfl
    | ok token =>
      cases pieceTokens first with
      | error e => rfl
      | ok tokens =>
        cases pieceTokens second with
        | error e => rfl
        | ok others => exact congrArg Except.ok (List.append_assoc _ _ _).symm

theorem tokens_of_tidy_eq_nil (nothing : tidy text = []) : tokens text = .ok [] := by
  rw [tokens, nothing]
  rfl

/-- Two headers, in neither of which a space stands inside a bracket, with a space between them
where they do not meet at a bracket or a colon: the tokens are those of the first and then those of
the second, and there are none exactly if one of the two has none. The weight is the sum of the two
weights. -/
theorem tokens_beside (left : Unpadded front) (right : Unpadded back)
    (ends : ∀ c ∈ (tidy front).getLast?, c ≠ '(' ∧ c ≠ ':')
    (starts : ∀ c ∈ (tidy back).head?, c ≠ ')' ∧ c ≠ ':') :
    tokens (front ++ ' ' :: back) = (do return (← tokens front) ++ (← tokens back)) ∧
    ((∃ e, tokens (front ++ ' ' :: back) = .error e) ↔
      (∃ e, tokens front = .error e) ∨ ∃ e, tokens back = .error e) ∧
    weight (front ++ ' ' :: back) = (do return (← weight front) + (← weight back)) := by
  have whole : tokens (front ++ ' ' :: back) = (do return (← tokens front) ++ (← tokens back)) := by
    rcases tidy_beside left right ends starts with ⟨nothing, rest⟩ | ⟨nothing, rest⟩ | both
    · have same : tokens (front ++ ' ' :: back) = tokens back := by rw [tokens, rest, tokens]
      rw [same, tokens_of_tidy_eq_nil nothing]
      cases tokens back <;> rfl
    · have same : tokens (front ++ ' ' :: back) = tokens front := by rw [tokens, rest, tokens]
      rw [same, tokens_of_tidy_eq_nil nothing]
      cases tokens front with
      | error e => rfl
      | ok found => exact congrArg Except.ok (List.append_nil found).symm
    · rw [tokens, both, Text.splitAt_append_mark, pieceTokens_append]
      rfl
  refine ⟨whole, ?_, ?_⟩
  · rw [whole]
    cases tokens front with
    | error e => exact ⟨fun _ => .inl ⟨e, rfl⟩, fun _ => ⟨e, rfl⟩⟩
    | ok found =>
      cases tokens back with
      | error e => exact ⟨fun _ => .inr ⟨e, rfl⟩, fun _ => ⟨e, rfl⟩⟩
      | ok others => simp [bind, Except.bind, pure, Except.pure]
  · rw [weight, weight, weight, whole]
    cases tokens front with
    | error e => rfl
    | ok found =>
      cases tokens back with
      | error e => rfl
      | ok others => exact congrArg Except.ok List.countP_append

theorem tokens_beside_media :
    Unpadded "@media screen ".toList ∧ Unpadded "\tand (width : 9px)".toList ∧
    (∀ c ∈ (tidy "@media screen ".toList).getLast?, c ≠ '(' ∧ c ≠ ':') ∧
    (∀ c ∈ (tidy "\tand (width : 9px)".toList).head?, c ≠ ')' ∧ c ≠ ':') ∧
    tokens "@media screen  \tand (width : 9px)".toList =
      .ok [.rule "media".toList true, .feature "screen".toList, .operator "and".toList,
        .range "(width:9px)".toList] ∧
    weight "@media screen  \tand (width : 9px)".toList = .ok 3 := by
  have left : Unpadded "@media screen ".toList := ⟨by decide +kernel, by decide +kernel⟩
  have right : Unpadded "\tand (width : 9px)".toList := ⟨by decide +kernel, by decide +kernel⟩
  have last : (tidy "@media screen ".toList).getLast? = some 'n' := by decide +kernel
  have first : (tidy "\tand (width : 9px)".toList).head? = some 'a' := by decide +kernel
  have ends : ∀ c ∈ (tidy "@media screen ".toList).getLast?, c ≠ '(' ∧ c ≠ ':' := by
    rw [last]
    rintro c ⟨⟩
    decide
  have starts : ∀ c ∈ (tidy "\tand (width : 9px)".toList).head?, c ≠ ')' ∧ c ≠ ':' := by
    rw [first]
    rintro c ⟨⟩
    decide
  have parts : "@media screen  \tand (width : 9px)".toList =
      "@media screen ".toList ++ ' ' :: "\tand (width : 9px)".toList := rfl
  obtain ⟨together, -, sum⟩ := tokens_beside left right ends starts
  refine ⟨left, right, ends, starts, ?_, ?_⟩
  · have front : tokens "@media screen ".toList =
        .ok [.rule "media".toList true, .feature "screen".toList] :=
      eq_ok_of_toOption (by decide +kernel)
    have back : tokens "\tand (width : 9px)".toList =
        .ok [.operator "and".toList, .range "(width:9px)".toList] :=
      eq_ok_of_toOption (by decide +kernel)
    rw [parts, together, front, back]
    rfl
  · have front : weight "@media screen ".toList = .ok 2 := eq_ok_of_toOption (by decide +kernel)
    have back : weight "\tand (width : 9px)".toList = .ok 1 := eq_ok_of_toOption (by decide +kernel)
    rw [parts, sum, front, back]
    rfl

end StyleScore.Header
