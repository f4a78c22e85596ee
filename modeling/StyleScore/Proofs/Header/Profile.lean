import StyleScore.Proofs.Header.Tokens

/-!
What a piece of a header counts as. A few traits of the piece decide its token (`Profile`), and the
traits of a text are those of its two sides together wherever it is divided by a character that
belongs to no word (`profile_divide`). So a tab in a piece hides nothing that stands in the piece,
and next to a closing bracket it does nothing at all (`profiles_before_bracket`).
-/
namespace StyleScore.Header

open Text (splitAt isWordChar)

variable {piece text : Text} {pieces : List Text} {gap d : Char}

/-! ### What is told of tokens -/

/-- What a token is called; a range is a feature. -/
inductive Kind where
  | rule | feature | operator
  deriving DecidableEq, Repr

def Token.kind : Token → Kind
  | rule _ _ => .rule
  | feature _ => .feature
  | range _ => .feature
  | operator _ => .operator

/-- The kind of a token, and whether it weighs anything. -/
def Token.look (token : Token) : Kind × Bool := (token.kind, token.isWeighed)

/-- How the tokens of pieces look, unless a piece fails. -/
def looks? (pieces : List Text) : Option (List (Kind × Bool)) :=
  (pieceTokens pieces).toOption.map (List.map Token.look)

theorem looks?_cons (piece : Text) (pieces : List Text) :
    looks? (piece :: pieces) = ((pieceToken? piece).toOption.map (Option.map Token.look)).bind
      fun look =>
      (looks? pieces).map (look.toList ++ ·) := by
  rw [looks?, looks?, pieceTokens]
  cases pieceToken? piece with
  | error e => rfl
  | ok token =>
    cases pieceTokens pieces with
    | error e => rfl
    | ok tokens => cases token <;> simp [bind, Except.bind, pure, Except.pure, Except.toOption]

theorem looks?_append (pieces others : List Text) :
    looks? (pieces ++ others) = (looks? pieces).bind fun first =>
      (looks? others).map (first ++ ·) := by
  induction pieces with
  | nil =>
    have none : looks? [] = some [] := rfl
    simp [none]
  | cons piece pieces ih =>
    rw [List.cons_append, looks?_cons, looks?_cons, ih]
    cases (pieceToken? piece).toOption.map (Option.map Token.look) with
    | none => rfl
    | some look =>
      cases looks? pieces with
      | none => rfl
      | some first => cases looks? others <;> simp

theorem looks?_eq_none_iff (tidied : ∀ piece ∈ pieces, tidy piece = piece) :
    looks? pieces = none ↔ ∃ piece ∈ pieces, IsStranded piece := by
  rw [looks?, Option.map_eq_none_iff, ← pieceTokens_fails_iff tidied]
  cases pieceTokens pieces <;> simp [Except.toOption]

/-- The kinds of the tokens of pieces, unless a piece fails. -/
def kindsOf? (pieces : List Text) : Option (List Kind) :=
  (pieceTokens pieces).toOption.map (List.map Token.kind)

/-- What the tokens of pieces weigh, unless a piece fails. -/
def weightOf? (pieces : List Text) : Option Nat :=
  (pieceTokens pieces).toOption.map (List.countP Token.isWeighed)

theorem kindsOf?_eq (pieces : List Text) :
    kindsOf? pieces = (looks? pieces).map (List.map Prod.fst) := by
  simp [kindsOf?, looks?, Function.comp_def, Token.look]

theorem weightOf?_eq (pieces : List Text) :
    weightOf? pieces = (looks? pieces).map (List.countP Prod.snd) := by
  simp [weightOf?, looks?, Function.comp_def, Token.look, List.countP_map]

/-- What is told of pieces side by side is told of the same pieces in other company too, unless one
of these fails. -/
theorem map_looks?_between {α : Type} {measure : List (Kind × Bool) → α}
    (cancels : ∀ first last own other,
      measure (first ++ (own ++ last)) = measure (first ++ (other ++ last)) ↔
      measure own = measure other) (before after pieces others : List Text) :
    (looks? (before ++ (pieces ++ after))).map measure =
      (looks? (before ++ (others ++ after))).map measure ↔
      (looks? before = none ∨ looks? after = none) ∨
        (looks? pieces).map measure = (looks? others).map measure := by
  simp only [looks?_append]
  cases looks? before with
  | none => simp
  | some first =>
    cases looks? after with
    | none => cases looks? pieces <;> cases looks? others <;> simp
    | some last => cases looks? pieces <;> cases looks? others <;> simp [cancels]

/-! ### The traits that decide -/

/-- The traits of a piece that decide its token. -/
structure Profile where
  rule : Bool
  feature : Bool
  operator : Bool
  sign : Bool
  opening : Bool
  closing : Bool
  word? : Option Text

def profile (piece : Text) : Profile where
  rule := mentions ruleWords piece
  feature := mentions featureWords piece
  operator := mentions operatorWords piece
  sign := decide ('@' ∈ piece)
  opening := decide ('(' ∈ piece)
  closing := decide (')' ∈ piece)
  word? := wordIn? piece

namespace Profile

/-- The traits of two texts together. The first word counts. -/
def join (p q : Profile) : Profile where
  rule := p.rule || q.rule
  feature := p.feature || q.feature
  operator := p.operator || q.operator
  sign := p.sign || q.sign
  opening := p.opening || q.opening
  closing := p.closing || q.closing
  word? := p.word?.or q.word?

def idle : Profile := ⟨false, false, false, false, false, false, none⟩

theorem idle_join (p : Profile) : idle.join p = p := by simp [join, idle]

theorem join_idle (p : Profile) : p.join idle = p := by simp [join, idle]

theorem join_assoc (p q r : Profile) : (p.join q).join r = p.join (q.join r) := by
  simp [join, Bool.or_assoc, Option.or_assoc]

/-- How the token looks: it fails, or there is none, or there is one. -/
def look? (p : Profile) : Option (Option (Kind × Bool)) :=
  if p.rule then
    if p.sign then
      p.word?.map fun word => if mentions ruleWords word then some (.rule, true) else none
    else some none
  else if p.feature then some (some (.feature, true))
  else if p.operator then some (some (.operator, true))
  else if p.opening && p.closing then some (some (.feature, false))
  else some none

end Profile

theorem look_pieceToken? (tidied : tidy piece = piece) :
    (pieceToken? piece).toOption.map (Option.map Token.look) = (profile piece).look? := by
  rw [pieceToken?, ruleToken?_of_tidy tidied]
  unfold Profile.look? profile
  by_cases rule : mentions ruleWords piece = true
  · by_cases sign : '@' ∈ piece
    · cases wordIn? piece with
      | none => simp [rule, sign, Except.toOption]
      | some word => by_cases known : mentions ruleWords word = true <;>
          simp [rule, sign, known, Except.toOption, Token.look, Token.kind, Token.isWeighed]
    · simp [rule, sign, Except.toOption]
  · simp only [rule]
    by_cases feature : mentions featureWords piece = true
    · simp [feature, Except.toOption, Token.look, Token.kind, Token.isWeighed]
    · by_cases operator : mentions operatorWords piece = true
      · simp [feature, operator, Except.toOption, Token.look, Token.kind, Token.isWeighed]
      · by_cases brackets : '(' ∈ piece ∧ ')' ∈ piece <;>
          simp [feature, operator, brackets, Except.toOption, Token.look, Token.kind,
            Token.isWeighed]

/-- Tidy pieces with the same traits have tokens that look the same. -/
theorem looks?_congr {others : List Text} (tidied : ∀ piece ∈ pieces, tidy piece = piece)
    (tidiedToo : ∀ piece ∈ others, tidy piece = piece)
    (same : pieces.map profile = others.map profile) :
    looks? pieces = looks? others := by
  induction pieces generalizing others with
  | nil =>
    obtain rfl : others = [] := List.map_eq_nil_iff.1 same.symm
    rfl
  | cons piece pieces ih =>
    cases others with
    | nil => cases same
    | cons other others =>
      obtain ⟨own, later⟩ := List.cons.inj same
      obtain ⟨first, rest⟩ := List.forall_mem_cons.1 tidied
      obtain ⟨firstToo, restToo⟩ := List.forall_mem_cons.1 tidiedToo
      rw [looks?_cons, looks?_cons, look_pieceToken? first, look_pieceToken? firstToo, own,
        ih rest restToo later]

/-- The words that are looked for in a piece. -/
def vocabularies : List (List Text) := [ruleWords, featureWords, operatorWords]

theorem mem_vocabularies :
    ruleWords ∈ vocabularies ∧ featureWords ∈ vocabularies ∧ operatorWords ∈ vocabularies := by
  simp [vocabularies]

/-- A piece with nothing in it that tokens are made of. -/
structure IsIdle (piece : Text) : Prop where
  wordless : ∀ words ∈ vocabularies, ¬Names words piece
  signless : ∀ sign ∈ ['@', '(', ')'], sign ∉ piece

theorem IsIdle.profile_eq (idle : IsIdle piece) : profile piece = .idle := by
  have mute (words : List Text) (known : words ∈ vocabularies) : mentions words piece = false := by
    rw [← Bool.not_eq_true, mentions_iff]
    exact idle.wordless words known
  have unmarked : wordIn? piece = none := by
    rw [wordIn?_eq_none_iff]
    rintro ⟨c, -, inside⟩
    exact idle.signless '@' (by simp) (inside.subset (by simp))
  obtain ⟨rule, feature, operator⟩ := mem_vocabularies
  simp [profile, Profile.idle, mute _ rule, mute _ feature, mute _ operator, unmarked,
    idle.signless]

theorem looks?_cons_of_isIdle (idle : IsIdle piece) (tidied : tidy piece = piece)
    (pieces : List Text) :
    looks? (piece :: pieces) = looks? pieces := by
  rw [looks?_cons, look_pieceToken? tidied, idle.profile_eq]
  simp [Profile.look?, Profile.idle]

/-! ### Dividing a text -/

/-- Blanks that are no spaces. -/
def gaps : List Char := ['\t', '\n']

/-- Characters that belong to no word. -/
def dividers : List Char := gaps ++ [')']

theorem mentions_divide {words : List Text} (known : words ∈ vocabularies)
    (divider : d ∈ dividers) (front back : Text) :
    mentions words (front ++ d :: back) = (mentions words front || mentions words back) := by
  have foreign : ∀ words ∈ vocabularies, ∀ word ∈ words, dividers.all (fun d =>
      word.all fun letter => !Text.passesFor d letter) = true := by
    decide +kernel
  have apart (word : Text) (member : word ∈ words) : Text.containsAlike word (front ++ d :: back) =
      (Text.containsAlike word front || Text.containsAlike word back) := by
    refine Text.containsAlike_append_cons (fun letter inside => ?_) front back
    have all := List.all_eq_true.1 (foreign words known word member) d divider
    simpa using List.all_eq_true.1 all letter inside
  rw [Bool.eq_iff_iff, Bool.or_eq_true]
  simp only [mentions, List.any_eq_true]
  constructor
  · rintro ⟨word, member, found⟩
    rw [apart word member, Bool.or_eq_true] at found
    exact found.imp (fun left => ⟨word, member, left⟩) fun right => ⟨word, member, right⟩
  · rintro (⟨word, member, left⟩ | ⟨word, member, right⟩)
    · exact ⟨word, member, by rw [apart word member, left, Bool.true_or]⟩
    · exact ⟨word, member, by rw [apart word member, right, Bool.or_true]⟩

theorem wordIn?_divide (wordless : isWordChar d = false) (other : d ≠ '@') (front back : Text) :
    wordIn? (front ++ d :: back) = (wordIn? front).or (wordIn? back) := by
  induction front with
  | nil => simp [wordIn?, other]
  | cons c front ih =>
    have taken : (front ++ d :: back).takeWhile isWordChar = front.takeWhile isWordChar :=
      takeWhile_isWordChar_append fun e first => by cases first; exact wordless
    rw [List.cons_append, wordIn?, wordIn?, taken, ih]
    split <;> simp

/-- The traits of a text are those of its sides and of the divider between them. -/
theorem profile_divide (divider : d ∈ dividers) (front back : Text) :
    profile (front ++ d :: back) = ((profile front).join (profile [d])).join (profile back) := by
  have plain : dividers.all (fun d => !isWordChar d && d ≠ '@') = true := by decide +kernel
  obtain ⟨wordless, other⟩ : isWordChar d = false ∧ d ≠ '@' := by
    simpa using List.all_eq_true.1 plain d divider
  have silent : ∀ words ∈ vocabularies, dividers.all (fun d => !mentions words [d]) = true := by
    decide +kernel
  have mute (words : List Text) (known : words ∈ vocabularies) : mentions words [d] = false := by
    simpa using List.all_eq_true.1 (silent words known) d divider
  have divided (words : List Text) (known : words ∈ vocabularies) :
      mentions words (front ++ d :: back) =
        ((mentions words front || mentions words [d]) || mentions words back) := by
    rw [mentions_divide known divider, mute words known, Bool.or_false]
  have word : wordIn? [d] = none := by simp [wordIn?]
  obtain ⟨rule, feature, operator⟩ := mem_vocabularies
  simp only [profile, Profile.join, divided _ rule, divided _ feature, divided _ operator,
    wordIn?_divide wordless other, word, Option.or_none, List.mem_append, List.mem_cons,
    List.not_mem_nil, or_false, Bool.decide_or, Bool.or_assoc]

theorem mem_gaps : gap ∈ gaps ↔ gap = '\t' ∨ gap = '\n' := by simp [gaps]

theorem isBlank_of_mem_gaps (listed : gap ∈ gaps) : Text.isBlank gap = true := by
  rcases mem_gaps.1 listed with rfl | rfl <;> rfl

theorem ne_space_of_mem_gaps (listed : gap ∈ gaps) : gap ≠ ' ' := by
  rcases mem_gaps.1 listed with rfl | rfl <;> decide

theorem profile_gap (listed : gap ∈ gaps) : profile [gap] = .idle := by
  rcases mem_gaps.1 listed with rfl | rfl <;> rfl

/-- At a gap the traits of the two sides come together. -/
theorem profile_join (listed : gap ∈ gaps) (front back : Text) :
    profile (front ++ gap :: back) = (profile front).join (profile back) := by
  have divider : gap ∈ dividers := List.mem_append_left [')'] listed
  rw [profile_divide divider, profile_gap listed, Profile.join_idle]

theorem profile_before_bracket (listed : gap ∈ gaps) (front back : Text) :
    profile (front ++ gap :: ')' :: back) = profile (front ++ ')' :: back) := by
  have bracket : ')' ∈ dividers := by decide
  have alone : profile (')' :: back) = (profile [')']).join (profile back) := by
    have divided := profile_divide bracket [] back
    have none : profile [] = .idle := rfl
    rwa [none, Profile.idle_join] at divided
  rw [profile_join listed, alone, profile_divide bracket, Profile.join_assoc]

/-! ### Pieces -/

/-- The traits of the pieces between the spaces of a text. -/
def profiles (text : Text) : List Profile := (splitAt ' ' text).map profile

/-- Text without a space goes into the piece that it stands in. -/
theorem splitAt_insert {front back last next : Text} {lasts nexts : List Text}
    (left : splitAt ' ' front = lasts ++ [last]) (right : splitAt ' ' back = next :: nexts)
    {middle : Text} (free : ' ' ∉ middle) :
    splitAt ' ' (front ++ (middle ++ back)) = lasts ++ (last ++ (middle ++ next)) :: nexts := by
  have alone : splitAt ' ' middle = [] ++ [middle] := Text.splitAt_of_not_mem free
  exact Text.splitAt_append left (Text.splitAt_append alone right)

/-- A gap right before a closing bracket changes no traits. -/
theorem profiles_before_bracket (listed : gap ∈ gaps) (front back : Text) :
    profiles (front ++ gap :: ')' :: back) = profiles (front ++ ')' :: back) := by
  obtain ⟨lasts, last, left⟩ := Text.exists_splitAt_concat ' ' front
  obtain ⟨next, nexts, right⟩ := List.exists_cons_of_ne_nil (Text.splitAt_ne_nil ' ' back)
  have free : ' ' ∉ [gap, ')'] := by simpa using (ne_space_of_mem_gaps listed).symm
  have longer : splitAt ' ' (front ++ gap :: ')' :: back) =
      lasts ++ (last ++ gap :: ')' :: next) :: nexts :=
    splitAt_insert left right free
  have shorter : splitAt ' ' (front ++ ')' :: back) = lasts ++ (last ++ ')' :: next) :: nexts :=
    splitAt_insert left right fun member => free (List.mem_cons_of_mem gap member)
  rw [profiles, profiles, longer, shorter]
  simp only [List.map_append, List.map_cons, profile_before_bracket listed]

end StyleScore.Header
