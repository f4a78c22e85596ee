import StyleScore.Proofs.Header.Tokens

/-!
Headers that start with a keyword. Tidying does not touch the keyword, whatever follows it
(`tidy_lead`), so the word of the header is the keyword up to its first character that belongs to no
word (`wordIn?_keyword`). A hyphen is such a character: of the keywords of at-rules those without a
hyphen are recognised and the others are not (`recognises_iff`).
-/
namespace StyleScore.Header

open Text (IsLowercase SolidEnd isBlank collapseBlanks replaceFirst tightenColons
    splitAt isWordChar)

variable {lead rest keyword : Text}

/-! ### What stands before the first space -/

/-- Nothing of the text is touched by tidying, whatever follows it. -/
structure IsSteady (lead : Text) : Prop where
  lowercase : IsLowercase lead
  solid : ∀ c ∈ lead, isBlank c = false
  unopened : '(' ∉ lead
  colonless : ':' ∉ lead

theorem IsSteady.spaceless (steady : IsSteady lead) : ' ' ∉ lead := by
  intro member
  cases steady.solid ' ' member

theorem IsSteady.of_cons {c : Char} (steady : IsSteady (c :: lead)) : IsSteady lead where
  lowercase := steady.lowercase.of_subset fun _ => List.mem_cons_of_mem c
  solid d member := steady.solid d (List.mem_cons_of_mem c member)
  unopened member := steady.unopened (List.mem_cons_of_mem c member)
  colonless member := steady.colonless (List.mem_cons_of_mem c member)

theorem IsSteady.collapseBlanks_append (steady : IsSteady lead) (more : Text) :
    collapseBlanks (lead ++ more) = lead ++ collapseBlanks more := by
  induction lead with
  | nil => rfl
  | cons c lead ih =>
    rw [List.cons_append, Text.collapseBlanks_of_solid (steady.solid c List.mem_cons_self),
      ih steady.of_cons]
    rfl

theorem IsSteady.tightenColons_append (steady : IsSteady lead) (more : Text) :
    tightenColons (lead ++ more) = lead ++ tightenColons more := by
  induction lead with
  | nil => rfl
  | cons c lead ih =>
    have other : c ≠ ':' := fun same => steady.colonless (by simp [same])
    rw [List.cons_append, Text.tightenColons_of_solid (steady.solid c List.mem_cons_self) other,
      ih steady.of_cons]
    rfl

theorem IsSteady.tightenOpening_append (steady : IsSteady lead) (more : Text) :
    tightenOpening (lead ++ more) = lead ++ tightenOpening more :=
  Text.replaceFirst_pair_append_right (fun inside => steady.unopened (inside.subset (by simp)))
    fun meets => steady.unopened (List.mem_of_getLast? meets.1)

theorem IsSteady.tightenClosing_append (steady : IsSteady lead) (more : Text) :
    tightenClosing (lead ++ more) = lead ++ tightenClosing more :=
  Text.replaceFirst_pair_append_right (fun inside => steady.spaceless (inside.subset (by simp)))
    fun meets => steady.spaceless (List.mem_of_getLast? meets.1)

theorem IsSteady.trim_append (steady : IsSteady lead) (filled : lead ≠ []) (more : Text) :
    (lead ++ more).trim = lead ++ more.trimEnd := by
  obtain ⟨front, last, rfl⟩ := List.eq_nil_or_concat lead |>.resolve_left filled
  have start : Text.trimStart front = front :=
    Text.trimStart_of_solid fun c first => steady.solid c (by simp [List.mem_of_mem_head? first])
  rw [List.concat_eq_append, List.append_assoc, List.singleton_append,
    Text.trim_append_cons (steady.solid last (by simp)), start, List.append_assoc,
    List.singleton_append]

/-- A space and what comes after it begin with a space when runs of blanks are one. -/
theorem exists_collapseBlanks_space (rest : Text) :
    ∃ more, collapseBlanks (' ' :: rest) = ' ' :: more := by
  induction rest with
  | nil => exact ⟨[], Text.collapseBlanks_singleton ' '⟩
  | cons c rest ih =>
    rw [Text.collapseBlanks_cons_cons]
    split
    · exact ih
    · exact ⟨_, rfl⟩

/-- A space before a bracket or a colon gives way to it. -/
theorem head?_tighten_space {text : Text} {c : Char}
    (first : c ∈ (tightenColons (tightenClosing (' ' :: text))).head?) : c ∈ [' ', ':', ')'] := by
  by_cases bracket : text.head? = some ')'
  · obtain ⟨rest, rfl⟩ := List.head?_eq_some_iff.1 bracket
    rw [tightenClosing_bracket, Text.tightenColons_of_solid rfl (by decide)] at first
    cases first
    decide
  · rw [tightenClosing_cons fun meets => bracket meets.2, Text.tightenColons_of_blank rfl] at first
    split at first
    · next colon =>
      have solid : Text.SolidStart (tightenClosing text) := by
        intro d start
        obtain rfl := Option.some.inj (colon.symm.trans start)
        rfl
      rw [Text.head?_tightenColons solid, colon] at first
      cases first
      decide
    · cases first
      decide

/-- Tidying leaves what stands before the first space as it is. The space stays, or a colon or a
closing bracket takes its place. -/
theorem tidy_lead (steady : IsSteady lead) (filled : lead ≠ []) (rest : Text) :
    ∃ more, tidy (lead ++ ' ' :: rest) = lead ++ more ∧ (∀ c ∈ more.head?, c ∈ [' ', ':', ')']) ∧
      ∀ c ∈ more, c = ' ' ∨ c ∈ rest.lower := by
  have lowered : (lead ++ ' ' :: rest).lower = lead ++ ' ' :: rest.lower := by
    rw [Text.lower_append_blank rfl, Text.lower_of_isLowercase steady.lowercase]
  obtain ⟨spaced, collapsed⟩ := exists_collapseBlanks_space rest.lower
  have closed : tidy (lead ++ ' ' :: rest) =
      lead ++ (tightenColons (tightenClosing (' ' :: tightenOpening spaced))).trimEnd := by
    rw [tidy_eq, lowered, steady.collapseBlanks_append, collapsed, steady.tightenOpening_append,
      tightenOpening_cons (by decide), steady.tightenClosing_append, steady.tightenColons_append,
      steady.trim_append filled]
  have kept := Text.trimEnd_isPrefix (tightenColons (tightenClosing (' ' :: tightenOpening spaced)))
  refine ⟨_, closed, fun c first => ?_, fun c member => ?_⟩
  · obtain ⟨blanks, whole⟩ := kept
    apply head?_tighten_space
    rw [← whole, List.head?_append, Option.mem_def.1 first]
    rfl
  · have inside :=
      Text.mem_of_mem_replaceFirst (by simp) (Text.mem_of_mem_tightenColons (kept.subset member))
    rcases List.mem_cons.1 inside with space | inside
    · exact .inl space
    · have own : c ∈ collapseBlanks (' ' :: rest.lower) := by
        rw [collapsed]
        exact List.mem_cons_of_mem ' ' (Text.mem_of_mem_replaceFirst (by simp) inside)
      rcases Text.mem_of_mem_collapseBlanks own with space | own
      · exact .inl space
      · exact List.mem_cons.1 own

/-! ### Keywords -/

/-- The characters of keywords: small letters and the hyphen. -/
def keywordChars : List Char := "abcdefghijklmnopqrstuvwxyz-".toList

/-- The text is written in the characters of keywords, and a letter comes first. -/
structure IsKeyword (keyword : Text) : Prop where
  letters : ∀ c ∈ keyword, c ∈ keywordChars
  start : ∃ c ∈ keyword.head?, isWordChar c = true

theorem steady_of_mem_keywordChars :
    ∀ c ∈ keywordChars, (c ≠ 'Σ' ∧ c ≠ 'İ' ∧ Text.lowerChar c = c) ∧
    isBlank c = false ∧ c ≠ '(' ∧ c ≠ ':' :=
  List.all_iff_forall_prop.1 (by decide +kernel)

theorem isWordChar_of_mem_keywordChars : ∀ c ∈ keywordChars, isWordChar c = decide (c ≠ '-') :=
  List.all_iff_forall_prop.1 (by decide +kernel)

theorem IsKeyword.isSteady (named : IsKeyword keyword) : IsSteady ('@' :: keyword) where
  lowercase := List.forall_mem_cons.2
    ⟨by decide +kernel, fun c member => (steady_of_mem_keywordChars c (named.letters c member)).1⟩
  solid := List.forall_mem_cons.2
    ⟨rfl, fun c member => (steady_of_mem_keywordChars c (named.letters c member)).2.1⟩
  unopened member := by
    have inside : '(' ∈ keyword := (List.mem_cons.1 member).resolve_left (by decide)
    exact absurd rfl (steady_of_mem_keywordChars _ (named.letters _ inside)).2.2.1
  colonless member := by
    have inside : ':' ∈ keyword := (List.mem_cons.1 member).resolve_left (by decide)
    exact absurd rfl (steady_of_mem_keywordChars _ (named.letters _ inside)).2.2.2

theorem IsKeyword.isSmall (named : IsKeyword keyword) : Text.IsSmall keyword := by
  have all : ∀ c ∈ keywordChars, c.toLower = c := List.all_iff_forall_prop.1 (by decide +kernel)
  exact fun c member => all c (named.letters c member)

theorem isKeyword_of_mem {words : List Text} (known : keyword ∈ words)
    (tested : words.all fun word => word.all (fun c => decide (c ∈ keywordChars)) &&
      word.head?.any isWordChar) :
    IsKeyword keyword := by
  have own := List.all_eq_true.1 tested keyword known
  rw [Bool.and_eq_true, List.all_iff_forall_prop, Option.any_eq_true] at own
  exact ⟨own.1, by simpa using own.2⟩

/-- Of the characters of a keyword only the hyphen belongs to no word. -/
theorem takeWhile_isWordChar_keyword (letters : ∀ c ∈ keyword, c ∈ keywordChars) :
    keyword.takeWhile isWordChar = keyword.takeWhile (· ≠ '-') := by
  induction keyword with
  | nil => rfl
  | cons c keyword ih =>
    obtain ⟨own, others⟩ := List.forall_mem_cons.1 letters
    rw [List.takeWhile_cons, List.takeWhile_cons, isWordChar_of_mem_keywordChars c own, ih others]

/-- The word of a keyword ends at its first hyphen. -/
theorem wordIn?_keyword (named : IsKeyword keyword) {more : Text}
    (stop : ∀ c ∈ more.head?, c ∈ [' ', ':', ')']) :
    wordIn? ('@' :: keyword ++ more) = some (keyword.takeWhile (· ≠ '-')) := by
  have wordless : ∀ c ∈ [' ', ':', ')'], isWordChar c = false :=
    List.all_iff_forall_prop.1 (by decide +kernel)
  have filled : keyword.takeWhile isWordChar ≠ [] := by
    rw [ne_eq, takeWhile_isWordChar_eq_nil_iff]
    intro none
    obtain ⟨c, first, wordy⟩ := named.start
    cases wordy.symm.trans (none c first)
  have taken : (keyword ++ more).takeWhile isWordChar = keyword.takeWhile isWordChar :=
    takeWhile_isWordChar_append fun c first => wordless c (stop c first)
  rw [List.cons_append, wordIn?, taken, if_pos (by simpa using filled),
    takeWhile_isWordChar_keyword named.letters]

theorem word_keyword (named : IsKeyword keyword) (rest : Text) :
    word ('@' :: keyword ++ ' ' :: rest) = .ok (keyword.takeWhile (· ≠ '-')) := by
  obtain ⟨more, tidied, stop, -⟩ := tidy_lead named.isSteady (List.cons_ne_nil _ _) rest
  rw [word, tidied, wordIn?_keyword named stop]

/-! ### The keywords of at-rules -/

theorem isKeyword_of_mem_ruleWords (known : keyword ∈ ruleWords) : IsKeyword keyword :=
  isKeyword_of_mem known (by decide +kernel)

/-- A text in small letters passes for itself. -/
theorem mentions_of_mem {words : List Text} {text : Text} (known : keyword ∈ words)
    (small : Text.IsSmall keyword) (inside : keyword <:+: text) : mentions words text = true := by
  refine mentions_iff.2 ⟨keyword, known, keyword, inside, ?_⟩
  refine List.forall₂_same.2 fun c member => ?_
  simp [Text.passesFor, small c member]

/-- Pieces without an at sign have tokens, and none of an at-rule. -/
theorem pieceTokens_of_unmarked {pieces : List Text}
    (unmarked : ∀ piece ∈ pieces, tidy piece = piece ∧ '@' ∉ piece) :
    ∃ found, pieceTokens pieces = .ok found ∧
      ∀ word conditional, .rule word conditional ∉ found := by
  induction pieces with
  | nil => exact ⟨[], rfl, by simp⟩
  | cons piece pieces ih =>
    obtain ⟨⟨tidied, signless⟩, others⟩ := List.forall_mem_cons.1 unmarked
    obtain ⟨found, later, ruleless⟩ := ih others
    have own : ∃ token, pieceToken? piece = .ok token ∧
        ∀ word conditional, token ≠ some (.rule word conditional) := by
      rw [pieceToken?, ruleToken?_of_tidy tidied, if_neg signless]
      split
      · exact ⟨_, rfl, by simp⟩
      · split
        · exact ⟨_, rfl, by simp⟩
        · split
          · exact ⟨_, rfl, by simp⟩
          · split <;> exact ⟨_, rfl, by simp⟩
    obtain ⟨token, success, other⟩ := own
    refine ⟨token.toList ++ found, by rw [pieceTokens, success, later]; rfl,
      fun word conditional member => ?_⟩
    rcases List.mem_append.1 member with here | there
    · exact other word conditional (Option.mem_toList.1 here)
    · exact ruleless word conditional there

/-- The header is read as that of an at-rule with the keyword: its first token is the keyword, with
whether a condition follows it, its word is the keyword, and it weighs something. -/
structure Recognises (keyword header : Text) : Prop where
  first : ∃ others, tokens header =
    .ok (.rule keyword (decide (keyword ∈ conditionalWords)) :: others)
  word : word? header = .ok (some keyword)
  weighs : ∃ n, weight header = .ok n ∧ 1 ≤ n

theorem takeWhile_of_unhyphened (unhyphened : '-' ∉ keyword) :
    keyword.takeWhile (· ≠ '-') = keyword := by
  refine List.takeWhile_eq_self_iff.2 fun c member => ?_
  have other : c ≠ '-' := fun same => unhyphened (same ▸ member)
  simpa using other

/-- The token of a piece that starts with the keyword of an at-rule. -/
theorem pieceToken?_keyword (known : keyword ∈ ruleWords) {more : Text}
    (stop : ∀ c ∈ more.head?, c ∈ [' ', ':', ')'])
    (tidied : tidy ('@' :: keyword ++ more) = '@' :: keyword ++ more) :
    pieceToken? ('@' :: keyword ++ more) =
      .ok (if '-' ∈ keyword then none
        else some (.rule keyword (decide (keyword ∈ conditionalWords)))) := by
  have table : ∀ word ∈ ruleWords, mentions ruleWords (word.takeWhile (· ≠ '-')) =
      decide ('-' ∉ word) := by
    decide +kernel
  have named := isKeyword_of_mem_ruleWords known
  have inside : keyword <:+: '@' :: keyword ++ more := ⟨['@'], more, rfl⟩
  rw [pieceToken?, if_pos (mentions_of_mem known named.isSmall inside), ruleToken?_of_tidy tidied,
    if_pos (by simp), wordIn?_keyword named stop, Option.elim_some, table keyword known]
  by_cases hyphen : '-' ∈ keyword
  · simp [hyphen]
  · rw [takeWhile_of_unhyphened hyphen]
    simp [hyphen]

/-- The tokens of a header that starts with the keyword of an at-rule and has no other at sign. -/
theorem tokens_keyword (known : keyword ∈ ruleWords) (plain : '@' ∉ rest) :
    ∃ others, tokens ('@' :: keyword ++ ' ' :: rest) =
        .ok ((if '-' ∈ keyword then []
          else [.rule keyword (decide (keyword ∈ conditionalWords))]) ++ others) ∧
      ∀ word conditional, .rule word conditional ∉ others := by
  have steady := (isKeyword_of_mem_ruleWords known).isSteady
  obtain ⟨more, tidied, stop, source⟩ := tidy_lead steady (List.cons_ne_nil _ _) rest
  obtain ⟨next, nexts, cut⟩ := List.exists_cons_of_ne_nil (Text.splitAt_ne_nil ' ' more)
  have pieces : splitAt ' ' (tidy ('@' :: keyword ++ ' ' :: rest)) =
      ('@' :: keyword ++ next) :: nexts := by
    have alone : splitAt ' ' ('@' :: keyword) = [] ++ ['@' :: keyword] :=
      Text.splitAt_of_not_mem steady.spaceless
    rw [tidied, Text.splitAt_append alone cut, List.nil_append]
  have tidy_piece (piece : Text)
      (member : piece ∈ ('@' :: keyword ++ next) :: nexts) : tidy piece = piece :=
    tidy_of_mem_pieces (pieces ▸ member)
  have signless : '@' ∉ more := by
    intro member
    have lowered : '@' ∈ rest.lower := (source '@' member).resolve_left (by decide)
    exact plain ((Text.mem_lower_iff (by decide)).1 lowered)
  have first : pieceToken? ('@' :: keyword ++ next) =
      .ok (if '-' ∈ keyword then none
        else some (.rule keyword (decide (keyword ∈ conditionalWords)))) := by
    refine pieceToken?_keyword known (fun c start => stop c ?_) (tidy_piece _ List.mem_cons_self)
    obtain ⟨others, rfl⟩ := Text.prefix_of_splitAt cut
    rw [List.head?_append, Option.mem_def.1 start]
    rfl
  obtain ⟨others, later, ruleless⟩ := @pieceTokens_of_unmarked nexts fun piece member => by
    refine ⟨tidy_piece piece (List.mem_cons_of_mem _ member), fun inside => signless ?_⟩
    obtain ⟨before, after, rfl, -, -⟩ :=
      Text.exists_of_mem_splitAt (cut ▸ List.mem_cons_of_mem next member)
    simp [inside]
  refine ⟨others, ?_, ruleless⟩
  rw [tokens, pieces, pieceTokens, first, later]
  by_cases hyphen : '-' ∈ keyword <;> simp [hyphen, bind, Except.bind, pure, Except.pure]

/-- A header that starts with the keyword of an at-rule and has no other at sign is recognised
exactly when the keyword has no hyphen. Otherwise its word ends at the hyphen, and no token is that
of an at-rule. -/
theorem recognises_iff (known : keyword ∈ ruleWords) (plain : '@' ∉ rest) :
    (Recognises keyword ('@' :: keyword ++ ' ' :: rest) ↔ '-' ∉ keyword) ∧
    ('-' ∈ keyword →
      word? ('@' :: keyword ++ ' ' :: rest) = .ok (some (keyword.takeWhile (· ≠ '-'))) ∧
      ∃ found, tokens ('@' :: keyword ++ ' ' :: rest) = .ok found ∧
        ∀ word conditional, .rule word conditional ∉ found) := by
  have word : word? ('@' :: keyword ++ ' ' :: rest) = .ok (some (keyword.takeWhile (· ≠ '-'))) := by
    rw [word?, if_neg (by simp), word_keyword (isKeyword_of_mem_ruleWords known)]
    rfl
  obtain ⟨others, found, ruleless⟩ := tokens_keyword known plain
  refine ⟨⟨fun recognised hyphen => ?_, fun unhyphened => ?_⟩,
    fun hyphen => ⟨word, others, ?_, ruleless⟩⟩
  · rw [if_pos hyphen, List.nil_append] at found
    obtain ⟨later, first⟩ := recognised.first
    have same := Except.ok.inj (found.symm.trans first)
    exact ruleless keyword _ (same ▸ List.mem_cons_self)
  · rw [if_neg unhyphened, List.singleton_append] at found
    rw [takeWhile_of_unhyphened unhyphened] at word
    refine ⟨⟨others, found⟩, word, others.countP Token.isWeighed + 1, ?_, by omega⟩
    rw [weight, found, Except.map, List.countP_cons_of_pos (by rfl)]
  · rw [found, if_pos hyphen, List.nil_append]

theorem recognises_media_not_font_face :
    '@' ∉ "screen".toList ∧
    ("media".toList ∈ ruleWords ∧ Recognises "media".toList "@media screen".toList) ∧
    ("font-face".toList ∈ ruleWords ∧ ¬Recognises "font-face".toList "@font-face screen".toList ∧
      word? "@font-face screen".toList = .ok (some "font".toList)) := by
  have plain : '@' ∉ "screen".toList := by decide +kernel
  have media : "media".toList ∈ ruleWords := by decide +kernel
  have face : "font-face".toList ∈ ruleWords := by decide +kernel
  obtain ⟨recognised, cut⟩ := recognises_iff face plain
  have hyphen : '-' ∈ "font-face".toList := by decide +kernel
  refine ⟨plain, ⟨media, (recognises_iff media plain).1.2 (by decide +kernel)⟩, face,
    fun known => ?_, (cut hyphen).1⟩
  exact recognised.1 known hyphen

/-- The keyword of a starting style stands among the words of at-rules and among those with a
condition, and is not recognised. -/
theorem starting_style_not_recognised :
    "starting-style".toList ∈ ruleWords ∧ "starting-style".toList ∈ conditionalWords ∧
      ¬Recognises "starting-style".toList "@starting-style x".toList ∧
      word? "@starting-style x".toList = .ok (some "starting".toList) ∧
      tokens "@starting-style x".toList = .ok [] ∧ weight "@starting-style x".toList = .ok 0 := by
  have word : word? "@starting-style x".toList = .ok (some "starting".toList) :=
    eq_ok_of_toOption (by decide +kernel)
  have none : tokens "@starting-style x".toList = .ok [] := eq_ok_of_toOption (by decide +kernel)
  refine ⟨by decide +kernel, by decide +kernel, fun recognised => ?_, word, none,
    by rw [weight, none]; rfl⟩
  have same := Option.some.inj (Except.ok.inj (recognised.word.symm.trans word))
  exact absurd same (by decide +kernel)

end StyleScore.Header
