import StyleScore.Proofs.Token.Endings

/-!
A tidied text is scanned to lexemes alike, up to a blank at the end (`upToEnd_scanFrom`), unless a
line feed that is gone broke a string off.
-/
namespace StyleScore.Scan

/-- Lexemes alike, with texts left that go on alike. -/
def ScansAlike (intact : Prop) (first second : List Lexeme × Text) : Prop :=
  List.Forall₂ Lexeme.Alike first.1 second.1 ∧ Tidied intact 0 first.2 second.2

theorem ScansAlike.token {intact : Prop} {token other : Token} {left right : Text}
    (alike : token.Alike other) (rest : Tidied intact 0 left right) :
    ScansAlike intact ([.token token], left) ([.token other], right) :=
  ⟨.cons (.token alike) .nil, rest⟩

namespace Tidied

variable {intact : Prop} {reach : Nat} {s t : Text} {c d : Char}

/-! ### Names and urls -/

theorem isUrl_eq {name other : Text} (named : name.NamedAlike other) :
    decide (name.map Char.toLower = "url".toList) =
      decide (other.map Char.toLower = "url".toList) := by
  have differs (text : Text) (foreign : text.HasForeign) : decide (text = "url".toList) = false :=
    decide_eq_false (foreign.ne rfl)
  exact named.congr (fun text => decide (text = "url".toList)) differs

theorem unquoted_eq (tidied : Tidied intact reach s t) :
    (s.head?.elim true fun c => c ≠ '"' && c ≠ '\'') = t.head?.elim true fun c => c ≠ '"' &&
      c ≠ '\'' := by
  have double : Blind (· = '"') := blind_sign rfl
  have single : Blind (· = '\'') := blind_sign rfl
  have head := tidied.head_eq (double.or single) (by decide) (by decide)
  have negated (text : Text) : (text.head?.elim true fun c => c ≠ '"' && c ≠ '\'') =
      !(text.head?.elim false fun c => c = '"' || c = '\'') := by
    cases text <;> simp
  rw [negated, negated, head]

theorem scanName (tidied : Tidied intact 0 s t) :
    ScansAlike intact (Scan.scanName s) (Scan.scanName t) := by
  obtain ⟨named, rest⟩ := tidied.takeName
  unfold Scan.scanName
  generalize Scan.takeName s = first, Scan.takeName t = second at named rest
  obtain ⟨name, left⟩ := first
  obtain ⟨other, right⟩ := second
  dsimp only at named rest ⊢
  have head : left.head? = some '(' ↔ right.head? = some '(' := rest.head?_sign_iff rfl
  by_cases bracket : left.head? = some '('
  · obtain ⟨left, rfl⟩ := List.head?_eq_some_iff.1 bracket
    obtain ⟨right, rfl, further⟩ := rest.of_sign rfl
    have args : Tidied intact 0 (left.dropWhile isSpace) (right.dropWhile isSpace) :=
      dropWhile further
    simp only [isUrl_eq named, args.unquoted_eq]
    split
    · have url := args.takeUrl
      generalize Scan.takeUrl (left.dropWhile isSpace) = first,
        Scan.takeUrl (right.dropWhile isSpace) = second at url
      obtain ⟨value, ending, left⟩ := first
      obtain ⟨value', ending', right⟩ := second
      obtain ⟨same, behind⟩ := url
      dsimp only at same behind
      subst same
      cases ending with
      | closed => exact .token (.url value value' true) behind
      | endOfText =>
        exact ⟨.cons (.token (.url value value' false)) (.cons (.token (.fault _)) .nil), behind⟩
      | broken => exact .token (.fault _) behind.dropBadUrl
    · exact ⟨.cons (.opening (.function named)) .nil, further⟩
  · split
    · exact absurd rfl bracket
    · split
      · exact absurd rfl (mt head.2 bracket)
      · exact .token (.ident named) rest

/-! ### Signs -/

/-- Both texts start with the same signs, or none of them does. -/
theorem of_signs (signs : Text) (own : ∀ sign ∈ signs, isSign sign = true ∧ sign ≠ '\\')
    (tidied : Tidied intact 0 s t) :
    (∃ left right, s = signs ++ left ∧ t = signs ++ right ∧ Tidied intact 0 left right) ∨
      ¬signs <+: s ∧ ¬signs <+: t := by
  induction signs generalizing s t with
  | nil => exact .inl ⟨s, t, rfl, rfl, tidied⟩
  | cons sign signs ih =>
    obtain ⟨⟨first, plain⟩, others⟩ := List.forall_mem_cons.1 own
    have head := tidied.head?_sign_iff first
    have other {text : Text} (differs : text.head? ≠ some sign) : ¬sign :: signs <+: text := by
      rintro ⟨rest, rfl⟩
      exact differs rfl
    by_cases same : s.head? = some sign
    · obtain ⟨s, rfl⟩ := List.head?_eq_some_iff.1 same
      obtain ⟨t, rfl, rest⟩ := tidied.of_sign first
      rcases ih others (nextReach_zero plain ▸ rest) with
        ⟨left, right, rfl, rfl, behind⟩ | ⟨differs, differsToo⟩
      · exact .inl ⟨left, right, rfl, rfl, behind⟩
      · exact .inr ⟨fun start => differs (List.cons_prefix_cons.1 start).2,
          fun start => differsToo (List.cons_prefix_cons.1 start).2⟩
    · exact .inr ⟨other same, other (mt head.2 same)⟩

theorem scanSign_slash {rest : Text} (other : rest.head? ≠ some '*') :
    Scan.scanSign '/' rest = ([.token (.literal ['/'])], rest) := by
  unfold Scan.scanSign
  split <;> simp_all

theorem scanSign_angle {rest : Text} (other : ¬"!--".toList <+: rest) :
    Scan.scanSign '<' rest = ([.token (.literal ['<'])], rest) := by
  unfold Scan.scanSign
  split <;> simp_all

theorem scanSign_alone {rest : Text} (plain : c ∉ ['/', '<']) (single : bracket? c = none)
    (apart : rest.head?.elim false (isPair c) = false) :
    Scan.scanSign c rest = ([.token (.literal [c])], rest) := by
  rw [scanSign_eq rest plain, single]
  cases rest with
  | nil => rfl
  | cons d rest =>
    have other : isPair c d = false := apart
    simp [other]

theorem blind_isPair (c : Char) : Blind (isPair c) := by
  have bar : Blind (· = '|') := blind_sign rfl
  have equals : Blind (· = '=') := blind_sign rfl
  constructor
  · intro d
    have first := bar.small d
    have second := equals.small d
    unfold isPair
    rw [first, second]
  · intro d e high highToo
    have first := bar.foreign d e high highToo
    have second := equals.foreign d e high highToo
    unfold isPair
    rw [first, second]

theorem scanSign (c : Char) (tidied : Tidied intact 0 s t) :
    ScansAlike intact (Scan.scanSign c s) (Scan.scanSign c t) := by
  by_cases slash : c = '/'
  · subst slash
    have head : s.head? = some '*' ↔ t.head? = some '*' := tidied.head?_sign_iff rfl
    by_cases star : s.head? = some '*'
    · obtain ⟨s, rfl⟩ := List.head?_eq_some_iff.1 star
      obtain ⟨t, rfl, rest⟩ := tidied.of_sign rfl
      exact .token (.comment _ _) rest.takeComment
    · rw [scanSign_slash star, scanSign_slash (mt head.2 star)]
      exact .token (.literal _) tidied
  by_cases angle : c = '<'
  · subst angle
    rcases tidied.of_signs "!--".toList (by decide) with
      ⟨left, right, rfl, rfl, rest⟩ | ⟨first, second⟩
    · exact .token (.literal _) rest
    · rw [scanSign_angle first, scanSign_angle second]
      exact .token (.literal _) tidied
  have plain : c ∉ ['/', '<'] := by simp [slash, angle]
  cases bracket : bracket? c with
  | some lexeme =>
    rw [scanSign_eq s plain, scanSign_eq t plain, bracket]
    exact ⟨.cons (.refl lexeme) .nil, tidied⟩
  | none =>
    have head := tidied.head_eq (blind_isPair c) (by simp [isPair]) (by simp [isPair])
    cases pair : s.head?.elim false (isPair c) with
    | false =>
      rw [scanSign_alone plain bracket pair, scanSign_alone plain bracket (head ▸ pair)]
      exact .token (.literal _) tidied
    | true =>
      cases s with
      | nil => cases pair
      | cons d s =>
        have paired : isPair c d = true := pair
        have own : isSign d = true ∧ d ≠ '\\' := by
          simp only [isPair, Bool.or_eq_true, Bool.and_eq_true, decide_eq_true_eq] at paired
          rcases paired with ⟨_, rfl⟩ | ⟨rfl, _⟩ <;> decide
        obtain ⟨t, rfl, rest⟩ := tidied.of_sign own.1
        rw [scanSign_eq _ plain, scanSign_eq _ plain, bracket]
        simp only [paired, if_true]
        exact .token (.literal _) (nextReach_zero own.2 ▸ rest)

/-! ### Numbers and strings -/

/-- The token of a number with what follows it. -/
def numberToken (written left : Text) : List Lexeme × Text :=
  if startsIdent left then ([.token (.dimension written (Scan.takeName left).1)],
    (Scan.takeName left).2)
  else match left with
    | '%' :: left => ([.token (.percentage written)], left)
    | left => ([.token (.number written)], left)

theorem scansAlike_numberToken (written : Text) (tidied : Tidied intact 0 s t) :
    ScansAlike intact (numberToken written s) (numberToken (Text.asciiLower written) t) := by
  have length := numeralLength?_asciiLower written
  have head : s.head? = some '%' ↔ t.head? = some '%' := tidied.head?_sign_iff rfl
  unfold numberToken
  rw [tidied.startsIdent_eq]
  split
  · exact .token (.dimension _ _ length) tidied.takeName.2
  · by_cases percent : s.head? = some '%'
    · obtain ⟨s, rfl⟩ := List.head?_eq_some_iff.1 percent
      obtain ⟨t, rfl, rest⟩ := tidied.of_sign rfl
      exact .token (.percentage length) rest
    · split
      · exact absurd rfl percent
      · split
        · exact absurd rfl (mt head.2 percent)
        · exact .token (.number length) tidied

/-- The lexemes of a string after its quote. -/
def stringLexemes (quote : Char) (rest : Text) : List Lexeme × Text :=
  match Scan.takeString quote rest with
  | (value, .closed, left) => ([.token (.string value true)], left)
  | (value, .endOfText, left) =>
    ([.token (.string value false), .token (.fault .endInString)], left)
  | (_, .broken, left) => ([.token (.fault .badString)], left)

theorem scansAlike_stringLexemes {quote : Char} (quoted : quote ∈ ['"', '\''])
    (tidied : Tidied intact 0 s t)
    (unbroken : intact → .token (.fault .badString) ∉ (stringLexemes quote s).1) :
    ScansAlike intact (stringLexemes quote s) (stringLexemes quote t) := by
  have whole : intact → (Scan.takeString quote s).2.1 ≠ .broken := by
    intro valid broken
    apply unbroken valid
    unfold stringLexemes
    generalize Scan.takeString quote s = read at broken
    obtain ⟨value, ending, left⟩ := read
    dsimp only at broken
    subst broken
    exact List.mem_singleton.2 rfl
  have strings := takeString quoted tidied whole
  unfold stringLexemes
  generalize Scan.takeString quote s = first, Scan.takeString quote t = second at strings
  obtain ⟨value, ending, left⟩ := first
  obtain ⟨value', ending', right⟩ := second
  obtain ⟨same, rest⟩ := strings
  dsimp only at same rest
  subst same
  cases ending with
  | closed => exact .token (.string value value' true) rest
  | endOfText =>
    exact ⟨.cons (.token (.string value value' false)) (.cons (.token (.fault _)) .nil), rest⟩
  | broken => exact .token (.fault _) rest

/-! ### One step -/

theorem scanOther (tidied : Tidied intact 0 (c :: s) (c :: t)) (rest : Tidied intact 0 s t)
    (unbroken : intact → .token (.fault .badString) ∉ (Scan.scanOther c s).1) :
    ScansAlike intact (Scan.scanOther c s) (Scan.scanOther c t) := by
  have numbers := tidied.takeNumber
  have head := rest.head_eq blind_isNameChar (by decide) (by decide)
  unfold Scan.scanOther at unbroken ⊢
  generalize Scan.takeNumber (c :: s) = first, Scan.takeNumber (c :: t) = second at numbers unbroken
  cases numbers with
  | some rest => exact scansAlike_numberToken _ rest
  | none =>
    dsimp only at unbroken ⊢
    rw [← rest.startsIdent_eq, ← head, ← rest.startsEscape_eq]
    split
    · exact .token (.atKeyword _ _) rest.takeName.2
    next noKeyword =>
    rw [if_neg noKeyword] at unbroken
    split
    · exact .token (.hash _ _ _) rest.takeName.2
    next noHash =>
    rw [if_neg noHash] at unbroken
    split
    · next quoted =>
      rw [if_pos quoted] at unbroken
      exact scansAlike_stringLexemes (by simpa using quoted) rest unbroken
    · exact rest.scanSign c

/-- A character that starts no name is the same in both: a sign, or a backslash before a line
feed. -/
theorem of_startsIdent (alike : CharAlike c d) (rest : Tidied intact (nextReach 0 c) s t)
    (unnamed : startsIdent (c :: s) = false) : d = c ∧ Tidied intact 0 s t := by
  have both : isNameStart c = false ∧ startsEscape (c :: s) = false := by
    by_cases hyphen : c = '-'
    · subst hyphen
      exact ⟨rfl, startsEscape_of_ne (by decide)⟩
    · rw [startsIdent] at unnamed
      · exact Bool.or_eq_false_iff.1 unnamed
      · exact hyphen
  refine ⟨?_, rest.of_startsEscape both.2⟩
  rcases alike with ⟨_, rfl⟩ | ⟨high, _⟩
  · rcases toLower_eq_or_isAlpha c with same | ⟨letter, _⟩
    · exact same
    · simp [isNameStart, letter] at both
  · cases both.1.symm.trans (isNameStart_foreign high)

theorem startsRange_eq (alike : CharAlike c d) (rest : Tidied intact (nextReach 0 c) s t) :
    startsRange c s = startsRange d t ∧
    (startsRange c s = true → Tidied intact 0 (s.drop 1) (t.drop 1)) := by
  have blind : Blind fun c => c = 'u' || c = 'U' := by
    apply Blind.of_ascii (small_of_ascii (by decide +kernel))
    intro c mark
    rw [Bool.or_eq_true, decide_eq_true_eq, decide_eq_true_eq] at mark
    rcases mark with rfl | rfl <;> decide
  have question : Figure (· = '?') := figure_sign rfl
  have figure := figure_or figure_isHexDigit question
  have head : s.head? = some '+' ↔ t.head? = some '+' := rest.head?_sign_iff rfl
  unfold startsRange
  rw [← alike.test_eq blind]
  by_cases plus : s.head? = some '+'
  · obtain ⟨s, rfl⟩ := List.head?_eq_some_iff.1 plus
    obtain ⟨t, rfl, further⟩ := rest.of_sign rfl
    have next : Tidied intact 0 s t := further
    have digit := next.head_eq (.of_ascii figure.small figure.ascii) (by decide) (by decide)
    rw [List.drop_succ_cons, List.drop_zero, List.drop_succ_cons, List.drop_zero, digit]
    exact ⟨rfl, fun _ => next⟩
  · rw [decide_eq_false plus, decide_eq_false (mt head.2 plus)]
    simp

theorem startsArrow_eq (alike : CharAlike c d) (rest : Tidied intact (nextReach 0 c) s t) :
    startsArrow c s = startsArrow d t ∧
    (startsArrow c s = true → Tidied intact 0 (s.drop 2) (t.drop 2)) := by
  have head : c = '-' ↔ d = '-' := alike.eq_sign_iff rfl
  unfold startsArrow
  by_cases hyphen : c = '-'
  · have plain : c ≠ '\\' := by
      rintro rfl
      cases hyphen
    have further : Tidied intact 0 s t := nextReach_zero plain ▸ rest
    rw [decide_eq_true hyphen, decide_eq_true (head.1 hyphen)]
    rcases further.of_signs "->".toList (by decide) with
      ⟨left, right, rfl, rfl, behind⟩ | ⟨first, second⟩
    · exact ⟨rfl, fun _ => behind⟩
    · have unlike {text : Text} (differs : ¬"->".toList <+: text) :
          decide (text.take 2 = "->".toList) = false :=
        decide_eq_false fun same => differs (List.prefix_iff_eq_take.2 same.symm)
      rw [unlike first, unlike second]
      exact ⟨rfl, nofun⟩
  · rw [decide_eq_false hyphen, decide_eq_false (mt head.2 hyphen)]
    exact ⟨rfl, nofun⟩

theorem scanOne (tidied : Tidied intact 0 (c :: s) (d :: t))
    (unbroken : intact → .token (.fault .badString) ∉ (Scan.scanOne c s).1) :
    ScansAlike intact (Scan.scanOne c s) (Scan.scanOne d t) := by
  have named := tidied.startsIdent_eq
  have whole := tidied
  rw [scanOne_eq] at unbroken
  rw [scanOne_eq, scanOne_eq]
  cases tidied with
  | char solid alike rest =>
    obtain ⟨ranges, behindRange⟩ := startsRange_eq alike rest
    obtain ⟨arrows, behindArrow⟩ := startsArrow_eq alike rest
    rw [← alike.test_eq blind_isSpace, ← ranges, ← arrows, ← named, solid,
      if_neg Bool.false_ne_true, if_neg Bool.false_ne_true]
    rw [solid, if_neg Bool.false_ne_true] at unbroken
    split
    · next range => exact .token (.range _ _ _ _) (behindRange range).takeRange
    next noRange =>
    split
    · next arrow => exact .token (.literal _) (behindArrow arrow)
    next noArrow =>
    split
    · exact whole.scanName
    next unnamed =>
    -- What is left here is a sign, so it is the same character in both texts.
    rw [if_neg noRange, if_neg noArrow, if_neg unnamed] at unbroken
    obtain ⟨rfl, further⟩ := of_startsIdent alike rest (Bool.eq_false_iff.2 unnamed)
    exact whole.scanOther further unbroken
  | dotted rest => exact whole.scanName
  | lone space solid rest =>
    rw [if_pos space, if_pos space, dropWhile_of_solid solid,
      dropWhile_of_solid (rest.solid_of_solid solid)]
    exact .token (.blank _ _) rest
  | gap space spaces _ solid rest =>
    rw [if_pos space, if_pos (show isSpace ' ' = true from rfl),
      List.dropWhile_append_of_pos spaces, dropWhile_of_solid solid,
      dropWhile_of_solid (rest.solid_of_solid solid)]
    exact .token (.blank _ _) rest

/-! ### The whole text -/

/-- A tidied text has lexemes alike, up to a blank at its end. -/
theorem upToEnd_scanFrom (tidied : Tidied intact 0 s t) (pos place : Position)
    (unbroken : intact → ∀ entry ∈ scanFrom pos s, entry.2 ≠ .token (.fault .badString)) :
    UpToEnd (fun entry other => entry.2.Alike other.2) (·.2.isBlank) (fun _ => false)
      (scanFrom pos s)
      (scanFrom place t) := by
  -- On the length of what is left, since a step takes as many characters as its lexemes have.
  induction length : s.length using Nat.strongRecOn generalizing s t pos place with
  | ind n ih =>
    cases s with
    | nil =>
      cases tidied
      rw [scanFrom, scanFrom]
      exact .nil
    | cons c s =>
      cases t with
      | nil =>
        cases tidied with
        | ends space spaces _ =>
          rw [scanFrom, scanFrom, scanOne_eq, space, if_pos rfl,
            List.dropWhile_eq_nil_iff.2 spaces, scanFrom]
          exact .blank rfl
      | cons d t =>
        rw [scanFrom] at unbroken
        have one (valid : intact) : .token (.fault .badString) ∉ (Scan.scanOne c s).1 :=
          fun member =>
            (List.forall_mem_append.1 (unbroken valid)).1 _ (List.mem_map_of_mem member) rfl
        obtain ⟨lexemes, rest⟩ := tidied.scanOne one
        have shorter := length_scanOne_le c s
        rw [List.length_cons] at length
        rw [scanFrom, scanFrom]
        refine .append ?_ (ih _ (by omega) rest _ _
          (fun valid => (List.forall_mem_append.1 (unbroken valid)).2) rfl)
        rw [List.forall₂_map_left_iff, List.forall₂_map_right_iff]
        exact lexemes

end Tidied

end StyleScore.Scan
