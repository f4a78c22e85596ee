import StyleScore.Proofs.Header.Profile

/-!
A tab or a line feed in the place of a space. Headers are cut into pieces at spaces only, so the two
pieces around the space become one, unless tidying takes the space away in any case (`tidy_break`).
What is told of the header stays the same exactly when the one piece tells what the two did
(`break_space`). A closing bracket behind the space is a case of its own: the first space before
such a bracket is taken away, and if it is none any more, another one is.
-/
namespace StyleScore.Header

open Text (Lone Fits SolidStart SolidEnd isBlank collapseBlanks tightenColons splitAt)

variable {text front back : Text} {gap w : Char}

/-! ### Brackets -/

/-- A header up to where only colons and the ends are left to tidy. -/
def squeeze (text : Text) : Text := tightenClosing (tightenOpening (collapseBlanks text.lower))

theorem tightenOpening_break (outside : front.getLast? ≠ some '(') (lone : back.IsChain Lone) :
    ∃ more, more.head? = back.head? ∧ more.IsChain Lone ∧
      ∀ w, isBlank w = true → tightenOpening (front ++ w :: back) =
        tightenOpening front ++ w :: more := by
  by_cases inside : ['(', ' '] <:+: front
  · exact ⟨back, rfl, lone, fun w _ => Text.replaceFirst_append_left inside (w :: back)⟩
  · refine ⟨tightenOpening back, head?_tightenOpening back, isChain_tightenOpening lone,
      fun w blank => ?_⟩
    have other : w ≠ '(' := by
      rintro rfl
      cases blank
    have later : tightenOpening (front ++ w :: back) = front ++ tightenOpening (w :: back) :=
      Text.replaceFirst_pair_append_right inside fun meets => outside meets.1
    have none : tightenOpening front = front := Text.replaceFirst_of_absent inside
    rw [later, tightenOpening_cons other, none]

/-- A blank outside brackets stays where it is, unless it is a space before a closing bracket and no
other space was. -/
theorem squeeze_break (left : SolidEnd front) (right : SolidStart back)
    (outside : front.getLast? ≠ some '(') :
    ∃ A B, A.getLast? = front.lower.getLast? ∧ B.head? = back.lower.head? ∧ B.IsChain Lone ∧
      ((∀ w, isBlank w = true → squeeze (front ++ w :: back) = A ++ w :: B) ∨
        B.head? = some ')' ∧ squeeze (front ++ ' ' :: back) = A ++ B ∧
          ∀ w, isBlank w = true → w ≠ ' ' →
          squeeze (front ++ w :: back) = A ++ w :: tightenClosing B) := by
  have collapsed := Text.getLast?_collapseBlanks (solidEnd_lower left)
  have solid : SolidEnd (collapseBlanks front.lower) := (solidEnd_lower left).of_getLast? collapsed
  have apart : (collapseBlanks front.lower).getLast? ≠ some '(' := by
    rw [collapsed, ne_eq, Text.getLast?_lower_iff (by decide)]
    exact outside
  obtain ⟨more, first, lone, opened⟩ :=
    tightenOpening_break apart (Text.isChain_collapseBlanks back.lower)
  have squeezed (w : Char) (blank : isBlank w = true) :
      squeeze (front ++ w :: back) =
        tightenClosing (tightenOpening (collapseBlanks front.lower) ++ w :: more) := by
    rw [squeeze, Text.lower_append_blank blank,
      Text.collapseBlanks_append_blank (solidEnd_lower left) (solidStart_lower right),
      opened w blank]
  have last : (tightenOpening (collapseBlanks front.lower)).getLast? = front.lower.getLast? := by
    rw [getLast?_tightenOpening solid, collapsed]
  have start : more.head? = back.lower.head? := by
    rw [first, Text.head?_collapseBlanks (solidStart_lower right)]
  by_cases inside : [' ', ')'] <:+: tightenOpening (collapseBlanks front.lower)
  · -- The space that is taken away stands further left.
    refine ⟨tightenClosing (tightenOpening (collapseBlanks front.lower)), more, ?_, start, lone,
      .inl fun w blank => ?_⟩
    · rw [getLast?_tightenClosing, last]
    · rw [squeezed w blank]
      exact Text.replaceFirst_append_left inside (w :: more)
  · have later (w : Char) (blank : isBlank w = true) : squeeze (front ++ w :: back) =
        tightenOpening (collapseBlanks front.lower) ++ tightenClosing (w :: more) := by
      rw [squeezed w blank]
      refine Text.replaceFirst_pair_append_right inside fun meets => ?_
      rw [last] at meets
      cases solidEnd_lower left ' ' meets.1
    by_cases bracket : more.head? = some ')'
    · refine ⟨_, more, last, start, lone, .inr ⟨bracket, ?_, fun w blank other => ?_⟩⟩
      · obtain ⟨rest, rfl⟩ := List.head?_eq_some_iff.1 bracket
        rw [later ' ' rfl, tightenClosing_bracket]
      · rw [later w blank, tightenClosing_cons fun meets => other meets.1]
    · have solidMore : SolidStart more := (solidStart_lower right).of_head? start
      refine ⟨_, tightenClosing more, last, ?_, isChain_tightenClosing lone, .inl fun w blank => ?_⟩
      · rw [head?_tightenClosing solidMore, start]
      · rw [later w blank, tightenClosing_cons fun meets => bracket meets.2]

/-! ### Colons and ends -/

/-- The place between the texts is at an end or next to a colon. -/
def AtEdge (front back : Text) : Prop :=
  front = [] ∨ back = [] ∨ front.getLast? = some ':' ∨ back.head? = some ':'

theorem atEdge_congr {before after : Text} (last : before.getLast? = front.getLast?)
    (first : after.head? = back.head?) : AtEdge before after ↔ AtEdge front back := by
  unfold AtEdge
  rw [← List.getLast?_eq_none_iff, ← List.head?_eq_none_iff, last, first, List.getLast?_eq_none_iff,
    List.head?_eq_none_iff]

theorem atEdge_lower : AtEdge front.lower back.lower ↔ AtEdge front back := by
  unfold AtEdge
  rw [Text.lower_eq_nil_iff, Text.lower_eq_nil_iff, Text.getLast?_lower_iff (by decide),
    Text.head?_lower_iff (by decide)]

/-- At an end or next to a colon a blank is gone when the text is tidy. -/
theorem trim_of_atEdge (edge : AtEdge front back) (left : SolidEnd front)
    (blank : isBlank w = true) :
    (tightenColons (front ++ w :: back)).trim =
      (tightenColons front ++ tightenColons back).trim := by
  rw [Text.tightenColons_append_blank blank left]
  split
  · rfl
  · next inner =>
    rcases edge with rfl | rfl | last | first
    · rw [Text.tightenColons_nil, List.nil_append, List.nil_append, Text.trim_cons_blank blank]
    · rw [Text.tightenColons_nil, List.append_nil, Text.trim_append_blanks (by simpa using blank)]
    · exact absurd (.inl last) inner
    · exact absurd (.inr first) inner

/-- Anywhere else it stays, and the two sides are tidied each on its own. -/
theorem trim_of_not_atEdge (inner : ¬AtEdge front back) (left : SolidEnd front)
    (right : SolidStart back) (blank : isBlank w = true) :
    (tightenColons (front ++ w :: back)).trim = (tightenColons front).trim ++
      w :: (tightenColons back).trim := by
  obtain ⟨filled, filledToo, last, first⟩ :
      front ≠ [] ∧ back ≠ [] ∧ front.getLast? ≠ some ':' ∧ back.head? ≠ some ':' := by
    simpa [AtEdge] using inner
  obtain ⟨before, c, ends, black⟩ := Text.exists_tightenColons_concat left filled
  obtain ⟨d, after, starts, blackToo⟩ := Text.exists_tightenColons_cons right filledToo
  have whole := Text.trim_between black blackToo before [w] after
  have frontAlone := Text.trim_append_cons black before []
  have backAlone := Text.trim_append_cons blackToo [] after
  rw [Text.tightenColons_append_blank blank left, if_neg (by simp [last, first]), ends,
    starts, frontAlone]
  rw [List.nil_append] at backAlone
  rw [backAlone]
  simpa [Text.trimStart, Text.trimEnd] using whole

/-! ### A closing bracket behind the space -/

theorem tightenColons_append_bracket (left : SolidEnd front) (rest : Text) :
    tightenColons (front ++ ')' :: rest) = tightenColons front ++ tightenColons (')' :: rest) := by
  have kept : Text.dropBlank (')' :: rest) = ')' :: rest := rfl
  rw [Text.tightenColons_append left, kept, ite_self]

/-- Tidied or not, a gap before a closing bracket changes no traits. -/
theorem profiles_trim_before_bracket (listed : gap ∈ gaps) (left : SolidEnd front) (rest : Text) :
    profiles (tightenColons (front ++ gap :: ')' :: rest)).trim =
      profiles (tightenColons (front ++ ')' :: rest)).trim := by
  have blank := isBlank_of_mem_gaps listed
  rw [tightenColons_append_bracket left]
  by_cases edge : AtEdge front (')' :: rest)
  · rw [trim_of_atEdge edge left blank]
  · obtain ⟨filled, last⟩ : front ≠ [] ∧ front.getLast? ≠ some ':' := by
      simpa [AtEdge] using edge
    obtain ⟨before, c, ends, black⟩ := Text.exists_tightenColons_concat left filled
    have between (middle : Text) :=
      Text.trim_between black (d := ')') rfl before middle (tightenColons rest)
    rw [Text.tightenColons_append_blank blank left, if_neg (by simp [last]), ends,
      Text.tightenColons_of_solid rfl (by decide), List.append_assoc, List.append_assoc]
    have longer := between [gap]
    have shorter := between []
    simp only [List.cons_append, List.nil_append] at longer shorter ⊢
    rw [longer, shorter, List.append_cons, List.append_cons _ c (_ :: _)]
    exact profiles_before_bracket listed _ _

/-- The space before a closing bracket goes, and with a gap in its place the next such space
does. -/
theorem profiles_bracket (listed : gap ∈ gaps) (left : SolidEnd front)
    (lone : (')' :: back).IsChain Lone) :
    profiles (tightenColons (front ++ gap :: ')' :: tightenClosing back)).trim =
        profiles (tightenColons (front ++ ')' :: back)).trim ∨
      ∃ U V, (tightenColons (front ++ ')' :: back)).trim = U ++ ' ' :: V ∧
        profiles (tightenColons (front ++ gap :: ')' :: tightenClosing back)).trim =
          profiles (U ++ gap :: V) := by
  rw [profiles_trim_before_bracket listed left]
  cases found : Text.cutAt? [' ', ')'] back with
  | none =>
    have same : tightenClosing back = back :=
      Text.replaceFirst_of_absent (Text.cutAt?_eq_none_iff.1 found)
    exact .inl (by rw [same])
  | some parts =>
    obtain ⟨before, after⟩ := parts
    have whole : front ++ ')' :: back = (front ++ ')' :: before) ++ ' ' :: ')' :: after := by
      rw [Text.cutAt_append found]
      simp
    have closed : front ++ ')' :: tightenClosing back = (front ++ ')' :: before) ++
        ')' :: after := by
      rw [tightenClosing, Text.replaceFirst, found]
      simp
    have solid : SolidEnd (front ++ ')' :: before) := by
      intro c last
      rw [Text.cutAt_append found, List.append_assoc, ← List.cons_append] at lone
      have meets := (List.isChain_append.1 lone).2.2 c (by simpa using last) ' ' rfl
      by_contra blank
      cases meets (by simpa using blank)
    rw [whole, closed]
    by_cases edge : AtEdge (front ++ ')' :: before) (')' :: after)
    · rw [trim_of_atEdge edge solid rfl, tightenColons_append_bracket solid]
      exact .inl rfl
    · have bracket : SolidStart (')' :: after) := Text.solidStart_iff.2 rfl
      refine .inr ⟨_, _, trim_of_not_atEdge edge solid bracket rfl, ?_⟩
      rw [← profiles_trim_before_bracket listed solid,
        trim_of_not_atEdge edge solid bracket (isBlank_of_mem_gaps listed)]

/-! ### The space of a header -/

/-- A space that is a gap instead is gone from the tidied text or stays where it is. -/
theorem tidy_break (listed : gap ∈ gaps) (left : SolidEnd front) (right : SolidStart back)
    (outside : front.getLast? ≠ some '(') :
    (profiles (tidy (front ++ gap :: back)) = profiles (tidy (front ++ ' ' :: back)) ∧
      (back.head? ≠ some ')' → AtEdge front back ∧
        tidy (front ++ gap :: back) = tidy (front ++ ' ' :: back))) ∨
    ∃ U V, tidy (front ++ ' ' :: back) = U ++ ' ' :: V ∧
      profiles (tidy (front ++ gap :: back)) = profiles (U ++ gap :: V) ∧
      (back.head? ≠ some ')' → ¬AtEdge front back ∧
        tidy (front ++ gap :: back) = U ++ gap :: V) := by
  have blank := isBlank_of_mem_gaps listed
  have tidied (text : Text) : tidy text = (tightenColons (squeeze text)).trim := rfl
  obtain ⟨A, B, last, first, lone, ways⟩ := squeeze_break left right outside
  have solid : SolidEnd A := (solidEnd_lower left).of_getLast? last
  have solidToo : SolidStart B := (solidStart_lower right).of_head? first
  have edges : AtEdge A B ↔ AtEdge front back := (atEdge_congr last first).trans atEdge_lower
  rw [tidied, tidied]
  rcases ways with kept | ⟨bracket, spaced, gapped⟩
  · rw [kept ' ' rfl, kept gap blank]
    by_cases edge : AtEdge A B
    · have space : isBlank ' ' = true := rfl
      rw [trim_of_atEdge edge solid space, trim_of_atEdge edge solid blank]
      exact .inl ⟨rfl, fun _ => ⟨edges.1 edge, rfl⟩⟩
    · have space : isBlank ' ' = true := rfl
      rw [trim_of_not_atEdge edge solid solidToo space,
        trim_of_not_atEdge edge solid solidToo blank]
      exact .inr ⟨_, _, rfl, rfl, fun _ => ⟨fun other => edge (edges.2 other), rfl⟩⟩
  · have own : back.head? = some ')' := (Text.head?_lower_iff (by decide)).1 (first ▸ bracket)
    obtain ⟨rest, rfl⟩ := List.head?_eq_some_iff.1 bracket
    rw [spaced, gapped gap blank (ne_space_of_mem_gaps listed), tightenClosing_cons (by simp)]
    rcases profiles_bracket listed solid lone with same | ⟨U, V, plain, broken⟩
    · exact .inl ⟨same, fun differs => absurd own differs⟩
    · exact .inr ⟨U, V, plain, broken, fun differs => absurd own differs⟩

/-- A gap is as good as a space in a tight text. -/
theorem IsTight.exchange {U V : Text} (listed : gap ∈ gaps) (tight : IsTight (U ++ ' ' :: V)) :
    IsTight (U ++ gap :: V) := by
  have blank := isBlank_of_mem_gaps listed
  have lowercase : gap ≠ 'Σ' ∧ gap ≠ 'İ' ∧ Text.lowerChar gap = gap := by
    rcases mem_gaps.1 listed with rfl | rfl <;> decide +kernel
  obtain ⟨before, after, meets⟩ := List.isChain_append.1 tight.spaced
  obtain ⟨next, later⟩ := List.isChain_cons.1 after
  refine ⟨fun c member => ?_, ?_, fun c first => ?_, fun c last => ?_⟩
  · rcases List.mem_append.1 member with inFront | inBack
    · exact tight.lowercase c (List.mem_append_left _ inFront)
    · rcases List.mem_cons.1 inBack with rfl | inBack
      · exact lowercase
      · exact tight.lowercase c (List.mem_append_right U (List.mem_cons_of_mem ' ' inBack))
  · -- Which blank it is plays no part in what fits.
    refine List.isChain_append.2 ⟨before, List.isChain_cons.2 ⟨fun d first => ?_, later⟩,
      fun c last d first => ?_⟩
    · exact ⟨fun _ => (next d first).1 rfl,
        fun colon => absurd colon (Text.ne_colon_of_isBlank blank)⟩
    · cases first
      have fits := meets c last ' ' rfl
      refine ⟨fun other => ?_, fun colon => ?_⟩
      · cases (fits.1 other).1
      · cases fits.2 colon
  · cases U with
    | nil => cases tight.trimmed.1 ' ' rfl
    | cons d U => exact tight.trimmed.1 c first
  · cases V with
    | nil => cases tight.trimmed.2 ' ' (by simp)
    | cons d V => exact tight.trimmed.2 c (by simpa [List.getLast?_append] using last)

/-- The kinds of the tokens of a header, if it has tokens. -/
def kinds? (header : Text) : Option (List Kind) :=
  (tokens header).toOption.map (List.map Token.kind)

theorem kinds?_eq (header : Text) : kinds? header = kindsOf? (splitAt ' ' (tidy header)) := rfl

theorem toOption_weight (header : Text) :
    (weight header).toOption = weightOf? (splitAt ' ' (tidy header)) := by
  rw [weight, weightOf?, tokens]
  cases pieceTokens (splitAt ' ' (tidy header)) <;> rfl

/-- Neither the kinds of the tokens nor the weight differ. -/
structure Unchanged (header broken : Text) : Prop where
  kinds : kinds? broken = kinds? header
  weight : (weight broken).toOption = (weight header).toOption

theorem unchanged_of_looks? {header broken : Text}
    (same : looks? (splitAt ' ' (tidy broken)) = looks? (splitAt ' ' (tidy header))) :
    Unchanged header broken where
  kinds := by rw [kinds?_eq, kinds?_eq, kindsOf?_eq, kindsOf?_eq, same]
  weight := by rw [toOption_weight, toOption_weight, weightOf?_eq, weightOf?_eq, same]

/-- The pieces around a space are one piece around a gap. -/
theorem exists_join {U V : Text} (listed : gap ∈ gaps) (tight : IsTight (U ++ ' ' :: V)) :
    ∃ before x y after, splitAt ' ' (U ++ ' ' :: V) = before ++ x :: y :: after ∧
      splitAt ' ' (U ++ gap :: V) = before ++ (x ++ gap :: y) :: after ∧
      (∀ piece ∈ before ++ x :: y :: after, tidy piece = piece) ∧
        tidy (x ++ gap :: y) = x ++ gap :: y := by
  obtain ⟨before, x, lasts⟩ := Text.exists_splitAt_concat ' ' U
  obtain ⟨y, after, firsts⟩ := List.exists_cons_of_ne_nil (Text.splitAt_ne_nil ' ' V)
  have free : ' ' ∉ [gap] := by simpa using (ne_space_of_mem_gaps listed).symm
  have pieces : splitAt ' ' (U ++ ' ' :: V) = before ++ x :: y :: after := by
    rw [Text.splitAt_append_mark, lasts, firsts, List.append_assoc, List.singleton_append]
  have joined : splitAt ' ' (U ++ gap :: V) = before ++ (x ++ gap :: y) :: after :=
    splitAt_insert lasts firsts free
  refine ⟨before, x, y, after, pieces, joined, fun piece member => ?_, ?_⟩
  · exact tight.tidy_of_mem_splitAt (pieces ▸ member)
  · exact (tight.exchange listed).tidy_of_mem_splitAt (joined ▸ by simp)

/-- Next to a piece that tokens are not made of nothing is lost or made. -/
theorem looks?_join_of_isIdle {x y : Text} (listed : gap ∈ gaps) (idle : IsIdle x ∨ IsIdle y)
    (tidied : tidy x = x) (tidiedToo : tidy y = y) (joined : tidy (x ++ gap :: y) = x ++ gap :: y)
    (after : List Text) :
    looks? ((x ++ gap :: y) :: after) = looks? (x :: y :: after) := by
  rw [looks?_cons, look_pieceToken? joined, profile_join listed]
  rcases idle with idle | idle
  · rw [looks?_cons_of_isIdle idle tidied, looks?_cons, look_pieceToken? tidiedToo, idle.profile_eq,
      Profile.idle_join]
  · rw [looks?_cons x, looks?_cons_of_isIdle idle tidiedToo, look_pieceToken? tidied,
      idle.profile_eq, Profile.join_idle]

/-- A space of a header, next to no other blank and not right behind an opening bracket, gives way
to a tab or a line feed. If no closing bracket follows, this changes nothing of the tidied header at
an end or next to a colon, and anywhere else it makes one piece of the two around the space; if one
follows, the tokens look the same or as if two pieces had become one. Nothing changes when one of
the two pieces has no word of a vocabulary, no at sign and no bracket. Otherwise kinds and weight
stay the same just when the header has no tokens because of some other piece, or when the one piece
has the kinds and the weight of the two. -/
theorem break_space (listed : gap ∈ gaps) (left : SolidEnd front) (right : SolidStart back)
    (outside : front.getLast? ≠ some '(') :
    (Unchanged (front ++ ' ' :: back) (front ++ gap :: back) ∧
      (back.head? ≠ some ')' → AtEdge front back ∧
        tidy (front ++ gap :: back) = tidy (front ++ ' ' :: back))) ∨
    ∃ before x y after, splitAt ' ' (tidy (front ++ ' ' :: back)) = before ++ x :: y :: after ∧
      (back.head? ≠ some ')' → ¬AtEdge front back ∧
        splitAt ' ' (tidy (front ++ gap :: back)) = before ++ (x ++ gap :: y) :: after) ∧
      looks? (splitAt ' ' (tidy (front ++ gap :: back))) =
        looks? (before ++ (x ++ gap :: y) :: after) ∧
      (kinds? (front ++ gap :: back) = kinds? (front ++ ' ' :: back) ↔
        (∃ piece ∈ before ++ after, IsStranded piece) ∨
        kindsOf? [x ++ gap :: y] = kindsOf? [x, y]) ∧
      ((weight (front ++ gap :: back)).toOption = (weight (front ++ ' ' :: back)).toOption ↔
        (∃ piece ∈ before ++ after, IsStranded piece) ∨
        weightOf? [x ++ gap :: y] = weightOf? [x, y]) ∧
      (IsIdle x ∨ IsIdle y → Unchanged (front ++ ' ' :: back) (front ++ gap :: back)) := by
  have tidied (header piece : Text)
      (member : piece ∈ splitAt ' ' (tidy header)) : tidy piece = piece :=
    tidy_of_mem_pieces member
  rcases tidy_break listed left right outside with ⟨same, edge⟩ | ⟨U, V, plain, traits, literal⟩
  · exact .inl ⟨unchanged_of_looks? (looks?_congr (tidied _) (tidied _) same), edge⟩
  · obtain ⟨before, x, y, after, pieces, joined, own, whole⟩ :=
      exists_join listed (plain ▸ isTight_tidy _)
    have looks : looks? (splitAt ' ' (tidy (front ++ gap :: back))) =
        looks? (before ++ (x ++ gap :: y) :: after) := by
      refine looks?_congr (tidied _) (fun piece member => ?_) (joined ▸ traits)
      simp only [List.mem_append, List.mem_cons] at member own
      rcases member with inside | rfl | inside
      · exact own piece (.inl inside)
      · exact whole
      · exact own piece (.inr (.inr (.inr inside)))
    have fails : (looks? before = none ∨ looks? after = none) ↔
        ∃ piece ∈ before ++ after, IsStranded piece := by
      rw [looks?_eq_none_iff fun piece member => own piece (by simp [member]),
        looks?_eq_none_iff fun piece member => own piece (by simp [member])]
      simp only [List.mem_append, or_and_right, exists_or]
    refine .inr ⟨before, x, y, after, by rw [plain, pieces], fun other => ?_, looks, ?_, ?_,
      fun idle => ?_⟩
    · rw [(literal other).2]
      exact ⟨(literal other).1, joined⟩
    · rw [kinds?_eq, kinds?_eq, kindsOf?_eq, kindsOf?_eq, kindsOf?_eq, kindsOf?_eq, looks, plain,
        pieces, ← fails]
      exact map_looks?_between (by simp) before after [x ++ gap :: y] [x, y]
    · rw [toOption_weight, toOption_weight, weightOf?_eq, weightOf?_eq, weightOf?_eq, weightOf?_eq,
        looks, plain, pieces, ← fails]
      exact map_looks?_between (by simp) before after [x ++ gap :: y] [x, y]
    · have same := looks?_join_of_isIdle listed idle (own x (by simp)) (own y (by simp)) whole after
      refine unchanged_of_looks? ?_
      rw [looks, plain, pieces, looks?_append, same, ← looks?_append]

theorem break_space_media :
    '\t' ∈ gaps ∧ SolidEnd "@media".toList ∧ SolidStart "screen".toList ∧
    "@media".toList.getLast? ≠ some '(' ∧
      ∃ before x y after, splitAt ' ' (tidy "@media screen".toList) = before ++ x :: y :: after ∧
        splitAt ' ' (tidy "@media\tscreen".toList) = before ++ (x ++ '\t' :: y) :: after := by
  have listed : '\t' ∈ gaps := by decide
  have left : SolidEnd "@media".toList := Text.solidEnd_iff.2 (by decide +kernel)
  have right : SolidStart "screen".toList := Text.solidStart_iff.2 (by decide +kernel)
  have outside : "@media".toList.getLast? ≠ some '(' := by decide +kernel
  have unbracketed : "screen".toList.head? ≠ some ')' := by decide +kernel
  refine ⟨listed, left, right, outside, ?_⟩
  rcases break_space listed left right outside with ⟨-, edge⟩ | ⟨before, x, y, after,
    pieces, literal, -⟩
  · have inner : ¬AtEdge "@media".toList "screen".toList := by
      unfold AtEdge
      decide +kernel
    exact absurd (edge unbracketed).1 inner
  · exact ⟨before, x, y, after, pieces, (literal unbracketed).2⟩

/-- Two ways in which a tab or a line feed in the place of a space outside brackets changes what is
told: words that are tokens apart are one token together, and a bracket further on gets another
space taken away. -/
theorem broken_media_changes :
    ¬Unchanged "@media screen".toList "@media\tscreen".toList ∧
    kinds? "@media screen".toList = some [.rule, .feature] ∧
    kinds? "@media\tscreen".toList = some [.rule] ∧
    weight "@media screen".toList = .ok 2 ∧ weight "@media\tscreen".toList = .ok 1 ∧
    kinds? "x ) (y )".toList = some [] ∧ kinds? "x\n) (y )".toList = some [.feature] := by
  have two : weight "@media screen".toList = .ok 2 := eq_ok_of_toOption (by decide +kernel)
  have one : weight "@media\tscreen".toList = .ok 1 := eq_ok_of_toOption (by decide +kernel)
  refine ⟨fun same => ?_, by decide +kernel, by decide +kernel, two, one, by decide +kernel,
    by decide +kernel⟩
  have weights := same.weight
  rw [one, two] at weights
  cases weights

end StyleScore.Header
