import StyleScore.Proofs.Header.Keyword
import StyleScore.Proofs.Tree.Enclosing
import StyleScore.Report.Score

/-!
What is told of the grouping rules around leaves. A header is put together from a keyword and a
prelude, and it is taken apart again by searching: the condition is what stands between the keyword
and where the keyword comes again. So the prelude comes back as it was unless the keyword is part of
it (`recovers_header`), and that decides what is reported of the grouping rules of a style sheet
(`conditions_ofText`).
-/
namespace StyleScore

namespace Header

open Text (cutAt? isBlank)

variable {keyword : Text}

/-- The part is the text up to the first occurrence of the word, or all of it where there is
none. -/
def IsUpTo (word text part : Text) : Prop :=
  (∃ rest, text = part ++ word ++ rest ∧ ∀ front back, text = front ++ word ++ back →
    part.length ≤ front.length) ∨
    ¬word <:+: text ∧ part = text

/-- What is found in a header that was made from a keyword and a prelude. -/
structure Recovers (keyword detail header : Text) : Prop where
  word : word? header = .ok (some keyword)
  condition : ∃ part, IsUpTo keyword detail part ∧ condition? header = .ok (some part.trim)
  whole : condition? header = .ok (some detail) ↔ ¬keyword <:+: detail

theorem IsKeyword.ne_nil (named : IsKeyword keyword) : keyword ≠ [] := by
  rintro rfl
  obtain ⟨c, first, -⟩ := named.start
  cases first

theorem between?_header (named : IsKeyword keyword) (detail : Text) :
    ∃ part, IsUpTo keyword detail part ∧
      between? keyword ('@' :: keyword ++ ' ' :: detail) = some (' ' :: part) := by
  have filled := named.ne_nil
  have signless : '@' ∉ keyword := fun member => absurd (named.letters _ member) (by decide +kernel)
  have spaceless : ' ' ∉ keyword :=
    fun member => absurd (named.letters _ member) (by decide +kernel)
  have here : cutAt? keyword (keyword ++ ' ' :: detail) = some ([], ' ' :: detail) :=
    Text.cutAt?_eq_some_iff.2 ⟨rfl, fun _ _ _ => Nat.zero_le _⟩
  rw [between?, List.cons_append, Text.cutAt?_cons_of_not_mem filled signless, here]
  simp only [Option.map_some, Prod.map_apply, id_eq, Text.cutAt?_cons_of_not_mem filled spaceless]
  cases again : cutAt? keyword detail with
  | none => exact ⟨detail, .inr ⟨Text.cutAt?_eq_none_iff.1 again, rfl⟩, rfl⟩
  | some parts => exact ⟨parts.1, .inl ⟨parts.2, Text.cutAt?_eq_some_iff.1 again⟩, rfl⟩

/-- The prelude is found again unless the keyword is part of it. -/
theorem recovers_header (named : IsKeyword keyword) (unhyphened : '-' ∉ keyword) {detail : Text}
    (trimmed : detail.IsTrimmed) : Recovers keyword detail ('@' :: keyword ++ ' ' :: detail) := by
  have word := word_keyword named detail
  rw [takeWhile_of_unhyphened unhyphened] at word
  obtain ⟨part, upTo, between⟩ := between?_header named detail
  have condition : condition? ('@' :: keyword ++ ' ' :: detail) = .ok (some part.trim) := by
    rw [condition?, if_neg (by simp), word]
    simp only [bind, Except.bind, between]
    rfl
  refine ⟨by rw [word?, if_neg (by simp), word]; rfl, ⟨part, upTo, condition⟩, ?_⟩
  rw [condition, Except.ok.injEq, Option.some.injEq]
  rcases upTo with ⟨rest, whole, -⟩ | ⟨absent, rfl⟩
  · refine iff_of_false (fun same => ?_) (not_not.2 ⟨part, rest, whole.symm⟩)
    have shorter := (Text.trim_isInfix part).length_le
    have filled : 0 < keyword.length := List.length_pos_iff.2 named.ne_nil
    have size := congrArg List.length whole
    simp only [same, List.length_append] at shorter size
    omega
  · exact iff_of_true (Text.trim_of_isTrimmed trimmed) absent

theorem record_eq_ok {header : Text} {record : Record} (made : Header.record header = .ok record) :
    word? header = .ok record.word? ∧ condition? header = .ok record.condition? := by
  rw [Header.record] at made
  obtain ⟨word, foundWord, made⟩ := bind_eq_ok.1 made
  obtain ⟨condition, foundCondition, made⟩ := bind_eq_ok.1 made
  obtain ⟨weight, -, made⟩ := bind_eq_ok.1 made
  cases made
  exact ⟨foundWord, foundCondition⟩

end Header

namespace Forest

variable {forest : Forest} {id : NodeId} {keyword detail : Text}

/-- The node is a grouping rule with a prelude, which is its condition or its name. -/
def HasPrelude (forest : Forest) (id : NodeId) (keyword detail : Text) : Prop :=
  forest.kind? id = some (.grouping keyword (some detail) none) ∨
    forest.kind? id = some (.grouping keyword none (some detail))

/-- Grouping rules around leaves are no keyframes and have a prelude. -/
theorem WellShaped.hasPrelude (shaped : forest.WellShaped) (encloses : forest.Encloses id) :
    ∃ keyword detail, forest.HasPrelude id keyword detail ∧ keyword ∈ groupingKeywords ∧
      detail ≠ [] ∧
      detail.IsTrimmed := by
  obtain ⟨keyword, condition, name, kind, filled⟩ := encloses.1
  have plain : endsInKeyframes keyword = false := by
    have frameless := shaped.not_isKeyframes encloses
    rwa [kind] at frameless
  have form := shaped.grouping id keyword condition name kind
  have trimmed := shaped.trimmed id _ kind
  by_cases layer : keyword = "layer".toList
  · obtain rfl := form.named (.inr layer)
    cases name with
    | none => simp at filled
    | some detail =>
      refine ⟨keyword, detail, .inr kind, form.keyword_mem plain, by simpa using filled, ?_⟩
      exact trimmed detail (by simp [NodeKind.headerTexts])
  · obtain ⟨conditional, rfl⟩ := (form.conditional plain).2 layer
    obtain ⟨detail, rfl⟩ := Option.isSome_iff_exists.1 conditional
    refine ⟨keyword, detail, .inl kind, form.keyword_mem plain, by simpa using filled, ?_⟩
    exact trimmed detail (by simp [NodeKind.headerTexts])

theorem HasPrelude.headerText (own : forest.HasPrelude id keyword detail) (filled : detail ≠ [])
    (trimmed : detail.IsTrimmed) :
    forest.headerText id = .ok ('@' :: keyword ++ ' ' :: detail) := by
  have solid : Text.IsTrimmed ('@' :: keyword ++ ' ' :: detail) := by
    refine ⟨by simp; rfl, fun c last => trimmed.2 c ?_⟩
    rw [List.getLast?_eq_some_getLast filled]
    rwa [List.getLast?_append, List.getLast?_cons, List.getLast?_eq_some_getLast filled] at last
  have shown : NodeKind.headerText? (.grouping keyword (some detail) none) =
      some ('@' :: keyword ++ ' ' :: detail) ∧
      NodeKind.headerText? (.grouping keyword none (some detail)) =
        some ('@' :: keyword ++ ' ' :: detail) := by
    constructor <;> simp only [NodeKind.headerText?, Option.getD_some, Option.getD_none,
      ne_eq, filled, not_false_eq_true, if_true, not_true_eq_false, if_false,
      Text.trim_of_isTrimmed solid]
  rcases own with kind | kind
  · rw [Forest.headerText, kind, Option.bind_some, shown.1]
  · rw [Forest.headerText, kind, Option.bind_some, shown.2]

/-- The header of a grouping rule around leaves gives its keyword and prelude back. -/
theorem WellShaped.recovers (shaped : forest.WellShaped) (encloses : forest.Encloses id) :
    ∃ keyword detail, forest.HasPrelude id keyword detail ∧ (keyword ≠ "starting-style".toList →
      ∃ header, forest.headerText id = .ok header ∧ Header.Recovers keyword detail header) := by
  obtain ⟨keyword, detail, own, listed, filled, trimmed⟩ := shaped.hasPrelude encloses
  refine ⟨keyword, detail, own, fun other => ⟨_, own.headerText filled trimmed, ?_⟩⟩
  have named : Header.IsKeyword keyword := Header.isKeyword_of_mem listed (by decide +kernel)
  have unhyphened : ∀ word ∈ groupingKeywords, word ≠ "starting-style".toList → '-' ∉ word := by
    decide +kernel
  exact Header.recovers_header named (unhyphened keyword listed other) trimmed

/-- The records are those of the headers, one for each node. -/
theorem recordAll_eq_ok {ids : List NodeId} {records : List Header.Record}
    (made : forest.recordAll ids = .ok records) :
    List.Forall₂ (fun id record => ∃ header, forest.headerText id = .ok header ∧
      Header.record header = .ok record) ids records := by
  induction ids generalizing records with
  | nil =>
    cases made
    exact .nil
  | cons id ids ih =>
    rw [recordAll] at made
    obtain ⟨header, shown, made⟩ := bind_eq_ok.1 made
    obtain ⟨record, own, made⟩ := bind_eq_ok.1 made
    obtain ⟨later, others, made⟩ := bind_eq_ok.1 made
    cases made
    exact .cons ⟨header, shown, own⟩ (ih others)

end Forest

/-- Every grouping rule listed for a style sheet has a prelude. Unless its keyword is that of a
starting style, its header has the keyword as its word and as its condition the part of the prelude
before the keyword comes again, and so what is reported is the prelude just when the keyword is not
in it. A sheet without a list is one with a number that is too long to read. -/
theorem conditions_ofText (css : Text) :
    (∃ rules notes ids, Rule.ofText css = .ok (rules, notes) ∧
      (Forest.ofRules rules).enclosing (some Forest.root) = .ok ids ∧
      (∀ id ∈ ids, ∃ keyword detail, (Forest.ofRules rules).HasPrelude id keyword detail ∧
        (keyword ≠ "starting-style".toList → ∃ header,
          (Forest.ofRules rules).headerText id = .ok header ∧
          Header.Recovers keyword detail header)) ∧
      ∀ records, (Forest.ofRules rules).inventory (some Forest.root) = .ok records →
        List.Forall₂ (fun id record => ∃ keyword detail,
          (Forest.ofRules rules).HasPrelude id keyword detail ∧
          (keyword ≠ "starting-style".toList → record.word? = some keyword ∧
            (record.condition? = some detail ↔ ¬keyword <:+: detail))) ids records) ∨
    ∃ digits, overlongNumeral? (scan css) = some digits ∧
      Rule.ofText css = .error (.overlongNumeral digits) := by
  rcases Item.ofText_cases css with ⟨items, read⟩ | ⟨digits, overlong, failed⟩
  · have shaped := Forest.wellShaped_ofRules (Rule.regular_ofItems items)
    obtain ⟨ids, listed, all, -⟩ := Forest.exists_enclosing_ofRules (Rule.ofItems items).1
    have recovered (id : NodeId) (member : id ∈ ids) := shaped.recovers ((all id).1 member)
    refine .inl ⟨_, _, ids, by rw [Rule.ofText, read]; rfl, listed, recovered,
      fun records made => ?_⟩
    rw [Forest.inventory, listed] at made
    have paired := (List.forall₂_and_left _ _).2 ⟨recovered, Forest.recordAll_eq_ok made⟩
    refine paired.imp fun id record both => ?_
    obtain ⟨⟨keyword, detail, own, told⟩, header, shown, recorded⟩ := both
    refine ⟨keyword, detail, own, fun other => ?_⟩
    obtain ⟨same, shownToo, recovers⟩ := told other
    obtain rfl := Except.ok.inj (shown.symm.trans shownToo)
    obtain ⟨word, condition⟩ := Header.record_eq_ok recorded
    refine ⟨Except.ok.inj (word.symm.trans recovers.word), ?_⟩
    rw [← recovers.whole, condition, Except.ok.injEq]
  · exact .inr ⟨digits, overlong, by rw [Rule.ofText, failed]; rfl⟩

end StyleScore
