import StyleScore.Proofs.Header.Tidy
import StyleScore.Proofs.Outcome

/-!
When a header has tokens. Only a piece can fail that names an at-rule and has an at sign without a
word behind it, and one such piece is enough (`tokens_fails_iff`). It is tidied twice more before it
is searched, but the pieces of a tidied header are tidy, so nothing is made or lost on the way.
-/
namespace StyleScore.Header

open Text (splitAt)

variable {text piece : Text} {pieces : List Text}

/-! ### Marks and vocabularies -/

/-- Some at sign has a word character right behind it. -/
def IsMarked (text : Text) : Prop := ∃ c, Text.isWordChar c = true ∧ ['@', c] <:+: text

/-- A word of the vocabulary stands in the text, whatever the letter case. -/
def Names (words : List Text) (text : Text) : Prop :=
  ∃ word ∈ words, ∃ written, written <:+: text ∧ Text.Alike written word

theorem mentions_iff {words : List Text} : mentions words text = true ↔ Names words text := by
  simp [mentions, Names, Text.containsAlike_iff]

theorem takeWhile_isWordChar_eq_nil_iff :
    text.takeWhile Text.isWordChar = [] ↔ ∀ c ∈ text.head?, Text.isWordChar c = false := by
  cases text with
  | nil => simp
  | cons c text => cases wordy : Text.isWordChar c <;> simp [wordy]

theorem takeWhile_isWordChar_append {more : Text}
    (stop : ∀ c ∈ more.head?, Text.isWordChar c = false) :
    (text ++ more).takeWhile Text.isWordChar = text.takeWhile Text.isWordChar := by
  rw [List.takeWhile_append, takeWhile_isWordChar_eq_nil_iff.2 stop, List.append_nil]
  split
  · next whole => exact ((List.takeWhile_prefix Text.isWordChar).eq_of_length whole).symm
  · rfl

theorem wordIn?_eq_none_iff : wordIn? text = none ↔ ¬IsMarked text := by
  induction text with
  | nil => simp [wordIn?, IsMarked]
  | cons c text ih =>
    have starts : (∃ d, Text.isWordChar d = true ∧ ['@', d] <+: c :: text) ↔
        c = '@' ∧ text.takeWhile Text.isWordChar ≠ [] := by
      rw [ne_eq, takeWhile_isWordChar_eq_nil_iff]
      cases text with
      | nil => simp
      | cons d text =>
        constructor
        · rintro ⟨e, wordy, starts⟩
          obtain ⟨rfl, rfl⟩ : '@' = c ∧ e = d := by simpa using starts
          exact ⟨rfl, by simp [wordy]⟩
        · rintro ⟨rfl, wordy⟩
          exact ⟨d, by simpa using wordy, by simp⟩
    have step : IsMarked (c :: text) ↔ (c = '@' ∧ text.takeWhile Text.isWordChar ≠ []) ∨
        IsMarked text := by
      rw [← starts]
      simp only [IsMarked, List.infix_cons_iff, and_or_left, exists_or]
    rw [step, wordIn?, not_or, ← ih]
    by_cases marked : c = '@' ∧ text.takeWhile Text.isWordChar ≠ []
    · simp [marked]
    · rw [if_neg (by simpa using marked)]
      exact ⟨fun none => ⟨marked, none⟩, And.right⟩

/-! ### Tokens of tidy pieces -/

/-- A piece that names an at-rule and has an at sign, but none with a word behind it. -/
def IsStranded (piece : Text) : Prop := Names ruleWords piece ∧ '@' ∈ piece ∧ ¬IsMarked piece

theorem word_of_tidy (tidied : tidy piece = piece) :
    word piece = (wordIn? piece).elim (.error (.noHeaderWord piece)) .ok := by
  rw [word, tidied]
  cases wordIn? piece <;> rfl

theorem ruleToken?_of_tidy (tidied : tidy piece = piece) :
    ruleToken? piece = if '@' ∈ piece then
      (wordIn? piece).elim (.error (.noHeaderWord piece)) fun word =>
        .ok (if mentions ruleWords word then some (.rule word (conditionalWords.contains word))
          else none)
    else .ok none := by
  rw [ruleToken?, tidied, ite_not, word_of_tidy tidied]
  cases wordIn? piece with
  | none => rfl
  | some word =>
    refine if_congr Iff.rfl ?_ rfl
    change (if mentions ruleWords word then _ else _) =
      Except.ok (if mentions ruleWords word then _ else _)
    split <;> rfl

theorem pieceToken?_eq_error_iff (tidied : tidy piece = piece) {e : Error} :
    pieceToken? piece = .error e ↔ IsStranded piece ∧ e = .noHeaderWord piece := by
  rw [IsStranded, ← mentions_iff, ← wordIn?_eq_none_iff, pieceToken?]
  split
  · next named =>
    rw [ruleToken?_of_tidy tidied]
    by_cases sign : '@' ∈ piece
    · cases wordIn? piece with
      | some word => simp [sign]
      | none =>
        rw [if_pos sign, Option.elim_none, Except.error.injEq]
        exact ⟨fun same => ⟨⟨named, sign, rfl⟩, same.symm⟩, fun lost => lost.2.symm⟩
    · simp [sign]
  · next unnamed =>
    simp only [unnamed]
    split
    · simp
    · split
      · simp
      · split <;> simp

/-- Pieces have tokens up to the first that fails. -/
theorem pieceTokens_eq_error {e : Error} (failure : pieceTokens pieces = .error e) :
    ∃ piece ∈ pieces, pieceToken? piece = .error e := by
  induction pieces with
  | nil => cases failure
  | cons piece pieces ih =>
    rw [pieceTokens, bind_eq_error] at failure
    rcases failure with here | ⟨token, -, later⟩
    · exact ⟨piece, List.mem_cons_self, here⟩
    · rcases bind_eq_error.1 later with there | ⟨tokens, -, impossible⟩
      · obtain ⟨other, member, failure⟩ := ih there
        exact ⟨other, List.mem_cons_of_mem piece member, failure⟩
      · cases impossible

theorem pieceToken?_of_pieceTokens {tokens : List Token} (success : pieceTokens pieces = .ok tokens)
    (member : piece ∈ pieces) : ∃ token, pieceToken? piece = .ok token := by
  induction pieces generalizing tokens with
  | nil => cases member
  | cons first pieces ih =>
    obtain ⟨token, own, rest⟩ := bind_eq_ok.1 success
    obtain ⟨others, later, -⟩ := bind_eq_ok.1 rest
    rcases List.mem_cons.1 member with rfl | member
    · exact ⟨token, own⟩
    · exact ih later member

/-- Tidy pieces fail when one of them names an at-rule and its at signs are lost. -/
theorem pieceTokens_fails_iff (tidied : ∀ piece ∈ pieces, tidy piece = piece) :
    (∃ e, pieceTokens pieces = .error e) ↔ ∃ piece ∈ pieces, IsStranded piece := by
  constructor
  · rintro ⟨e, failure⟩
    obtain ⟨piece, member, failure⟩ := pieceTokens_eq_error failure
    exact ⟨piece, member, ((pieceToken?_eq_error_iff (tidied piece member)).1 failure).1⟩
  · rintro ⟨piece, member, lost⟩
    cases result : pieceTokens pieces with
    | error e => exact ⟨e, rfl⟩
    | ok found =>
      obtain ⟨token, success⟩ := pieceToken?_of_pieceTokens result member
      cases success.symm.trans ((pieceToken?_eq_error_iff (tidied piece member)).2 ⟨lost, rfl⟩)

/-- A feature with a range of values. -/
def Token.isRange : Token → Bool
  | range _ => true
  | _ => false

theorem isWeighed_eq_not_isRange (token : Token) : token.isWeighed = !token.isRange := by
  cases token <;> rfl

/-- The tokens of a header fail, and with them its weight, exactly when one of the pieces between
the spaces of the tidied header names an at-rule and has an at sign, but no at sign that a word
character follows. The error is that no word was found. Every other header has tokens, and weighs as
many of them as are no ranges. -/
theorem tokens_fails_iff (header : Text) :
    ((∃ e, tokens header = .error e) ↔ ∃ piece ∈ splitAt ' ' (tidy header), IsStranded piece) ∧
    (∀ e, tokens header = .error e →
      e.label = "AtRuleTypeNotFoundError".toList ∧ ∃ piece ∈ splitAt ' ' (tidy header),
      e = .noHeaderWord piece) ∧
    (∀ e, weight header = .error e ↔ tokens header = .error e) ∧
    ((∀ piece ∈ splitAt ' ' (tidy header), ¬IsStranded piece) → ∃ found, tokens header = .ok found ∧
      weight header = .ok (found.filter fun token => !token.isRange).length) := by
  have tidied (piece : Text) (member : piece ∈ splitAt ' ' (tidy header)) : tidy piece = piece :=
    tidy_of_mem_pieces member
  have fails := pieceTokens_fails_iff tidied
  refine ⟨fails, ?_, ?_, ?_⟩
  · intro e failure
    obtain ⟨piece, member, failure⟩ := pieceTokens_eq_error failure
    obtain ⟨-, rfl⟩ := (pieceToken?_eq_error_iff (tidied piece member)).1 failure
    exact ⟨rfl, piece, member, rfl⟩
  · intro e
    exact map_eq_error
  · intro fine
    cases result : tokens header with
    | error e =>
      obtain ⟨piece, member, lost⟩ := fails.1 ⟨e, result⟩
      exact absurd lost (fine piece member)
    | ok found =>
      refine ⟨found, rfl, ?_⟩
      rw [weight, result, ← List.countP_eq_length_filter]
      simp only [Except.map, ← isWeighed_eq_not_isRange]

end StyleScore.Header
