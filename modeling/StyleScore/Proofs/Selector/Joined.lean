import StyleScore.Proofs.Selector.Comma

/-!
The specificity of two lists of selectors with a comma between them. It is the greater of the two
where both have one (`specificity_comma`). A first list that is refused is refused also with another
one behind it. One that ends in the middle of a namespace fails in another way when a comma follows
(`not_isRefused_comma_iff`).
-/
namespace StyleScore

namespace Specificity

theorem zero_join {a : Specificity} (count : a.IsCount) : zero.join a = a := by
  obtain ⟨ids, classes, types⟩ := a
  obtain ⟨first, second, third⟩ := count
  simp only [join, below, zero] at *
  grind

theorem join_assoc (a b c : Specificity) : (a.join b).join c = a.join (b.join c) := by
  simp only [join, below]
  grind

end Specificity

namespace Selector

/-- The greatest specificity in two lists is the greater of both. -/
theorem greatest_append (first second : List Complex) :
    greatest (first ++ second) = (greatest first).join (greatest second) := by
  induction first with
  | nil => rw [List.nil_append, greatest, Specificity.zero_join (isCount_greatest second)]
  | cons selector first ih => rw [List.cons_append, greatest, ih, greatest, Specificity.join_assoc]

/-! ### What is answered -/

/-- The component values of a text; none where a number is too long to be read. -/
def components? (text : Text) : Option (List Component) :=
  if (overlongNumeral? (scan text)).isNone then some (Component.ofLexemes (scan text)) else none

/-- The answer to a text that is read with some outcome. -/
inductive Answers : Except Mistake (List Complex) → Except Error Specificity → Prop where
  | ok (selectors : List Complex) : Answers (.ok selectors) (.ok (greatest selectors))
  | broken {cause cause' : Cause} {found found' : Option Component} {quoted : Text} :
      Answers (.error (.broken cause found)) (.error (.selectorSyntax quoted cause' found'))
  | unfinished : Answers (.error .unfinished) (.error .missingAttribute)

/-- The component values decide about the answer, wherever they stand. -/
theorem answers_specificity {text : Text} {content other : List Component} (filled : text ≠ [])
    (found : components? text = some content)
    (same : content.map Component.bare = other.map Component.bare) :
    Answers (list false false (pieces other)) (specificity text) := by
  have outcome := sameOutcome_ofComponents same
  unfold components? at found
  split at found
  · next short =>
    cases found
    rw [specificity, if_neg filled, parse, Option.isNone_iff_eq_none.1 short]
    dsimp only
    change Answers (ofComponents other) _
    generalize ofComponents (Component.ofLexemes (scan text)) = first,
      ofComponents other = second at outcome
    cases outcome with
    | ok selectors => exact .ok selectors
    | @error first second kind =>
      cases first with
      | unfinished =>
        rw [kind.1 rfl]
        exact .unfinished
      | broken cause found =>
        cases second with
        | unfinished => cases kind.2 rfl
        | broken cause' found' => exact .broken
  · cases found

/-- The text is refused as no list of selectors. -/
def IsRefused (text : Text) : Prop :=
  ∃ e, specificity text = .error e ∧ e.label = "SelectorSyntaxError".toList

section Answer

variable {text : Text} {outcome : Except Mistake (List Complex)}

theorem Answers.eq_ok_iff {value : Specificity} (answers : Answers outcome (specificity text)) :
    specificity text = .ok value ↔ ∃ selectors, outcome = .ok selectors ∧
      greatest selectors = value := by
  generalize specificity text = answer at answers ⊢
  cases answers with
  | ok selectors => simp
  | broken => simp
  | unfinished => simp

theorem not_isRefused_of_missing (missing : specificity text = .error .missingAttribute) :
    ¬IsRefused text := by
  rintro ⟨e, same, label⟩
  have other : Error.missingAttribute.label ≠ "SelectorSyntaxError".toList := by decide
  rw [← Except.error.inj (missing.symm.trans same)] at label
  exact other label

theorem Answers.isRefused_iff (answers : Answers outcome (specificity text)) :
    IsRefused text ↔ ∃ cause found, outcome = .error (.broken cause found) := by
  have missing : specificity text = .error .missingAttribute → ¬IsRefused text :=
    not_isRefused_of_missing
  unfold IsRefused at missing ⊢
  generalize specificity text = answer at answers missing ⊢
  cases answers with
  | ok selectors => simp
  | broken => exact ⟨fun _ => ⟨_, _, rfl⟩, fun _ => ⟨_, rfl, rfl⟩⟩
  | unfinished => exact ⟨fun refused => absurd refused (missing rfl), by simp⟩

theorem Answers.eq_missing_iff (answers : Answers outcome (specificity text)) :
    specificity text = .error .missingAttribute ↔ outcome = .error .unfinished := by
  generalize specificity text = answer at answers ⊢
  cases answers with
  | ok selectors => simp
  | broken => simp
  | unfinished => simp

end Answer

/-- Two lists with a comma between them, where the comma stands between their component values.
Together they have a specificity if and only if each of them has one, and it is the greater of both.
They are refused if the first list is, if it ends in the middle of a namespace outside all brackets,
or if it has a specificity and the second list is refused. They lack an attribute if the first list
does so in brackets, or if it has a specificity and the second list lacks one. Between lists that
lack none, one that is refused is all it takes. -/
theorem specificity_comma {first second : Text} {content further both : List Component}
    (filled : first ≠ []) (filledToo : second ≠ []) (one : components? first = some content)
    (two : components? second = some further)
    (whole : components? (first ++ ',' :: second) = some both)
    (parts : both.map Component.bare =
      (content ++ .leaf .start (.literal [',']) :: further).map Component.bare) :
    (∀ value, specificity (first ++ ',' :: second) = .ok value ↔
      ∃ a b, specificity first = .ok a ∧ specificity second = .ok b ∧ value = a.join b) ∧
    (IsRefused (first ++ ',' :: second) ↔ IsRefused first ∨
      (specificity first = .error .missingAttribute ∧ ∀ p ∈ pieces content, ¬p.IsStuck) ∨
      ((∃ a, specificity first = .ok a) ∧ IsRefused second)) ∧
    (specificity (first ++ ',' :: second) = .error .missingAttribute ↔
      (specificity first = .error .missingAttribute ∧ ∃ p ∈ pieces content, p.IsStuck) ∨
      ((∃ a, specificity first = .ok a) ∧ specificity second = .error .missingAttribute)) ∧
    (specificity first ≠ .error .missingAttribute → specificity second ≠ .error .missingAttribute →
      (IsRefused (first ++ ',' :: second) ↔ IsRefused first ∨ IsRefused second) ∧
      (¬IsRefused first → ¬IsRefused second → ∃ a b, specificity first = .ok a ∧
        specificity second = .ok b ∧
        specificity (first ++ ',' :: second) = .ok (a.join b))) := by
  have atFirst := answers_specificity filled one rfl
  have atSecond := answers_specificity filledToo two rfl
  have together := answers_specificity (by simp) whole parts
  have beside := beside_list isSign_commaPiece (pieces content) (pieces further)
  rw [pieces_comma] at together
  simp only [ne_eq, together.eq_ok_iff, together.isRefused_iff, together.eq_missing_iff,
    atFirst.eq_ok_iff, atFirst.isRefused_iff, atFirst.eq_missing_iff, atSecond.eq_ok_iff,
    atSecond.isRefused_iff, atSecond.eq_missing_iff]
  generalize list false false (pieces content) = reading, list false false (pieces further) = other,
    list false false (pieces content ++ commaPiece :: pieces further) = joined at beside ⊢
  cases beside with
  | ok selectors =>
    cases other with
    | ok others => simp [Except.map, greatest_append, eq_comm]
    | error mistake => cases mistake <;> simp [Except.map]
  | broken => simp
  | @stuck p member stuck => simpa using ⟨p, member, stuck⟩
  | ended free => simpa using free

/-- The first of the two lists is one of two selectors itself. -/
theorem specificity_comma_threefold : specificity "a[b],#c,d".toList = .ok ⟨1, 0, 0⟩ := by
  let leaf (column : Nat) (token : Token) : Component := .leaf ⟨1, column⟩ token
  let start : List Component :=
    [leaf 1 (.ident ['a']), .block ⟨1, 2⟩ (.block .square) [leaf 3 (.ident ['b'])]]
  let pair := start ++ [leaf 5 (.literal [',']), leaf 6 (.hash ['c'] true)]
  have one : components? "a[b]".toList = some start := by decide +kernel +zetaReduce
  have two : components? "#c".toList = some [leaf 1 (.hash ['c'] true)] := by
    decide +kernel +zetaReduce
  have three : components? "d".toList = some [leaf 1 (.ident ['d'])] := by
    decide +kernel +zetaReduce
  have firstTwo : components? ("a[b]".toList ++ ',' :: "#c".toList) = some pair := by
    decide +kernel +zetaReduce
  have all : components? ("a[b],#c".toList ++ ',' :: "d".toList) =
      some (pair ++ [leaf 8 (.literal [',']), leaf 9 (.ident ['d'])]) := by
        decide +kernel +zetaReduce
  have first : specificity "a[b]".toList = .ok ⟨0, 1, 1⟩ := by decide +kernel +zetaReduce
  have second : specificity "#c".toList = .ok ⟨1, 0, 0⟩ := by decide +kernel +zetaReduce
  have third : specificity "d".toList = .ok ⟨0, 0, 1⟩ := by decide +kernel +zetaReduce
  have inner :=
    specificity_comma (by decide) (by decide) one two firstTwo (by simp [leaf, pair,
      Component.bare_leaf])
  have outer :=
    specificity_comma (by decide) (by decide) firstTwo three all (by simp [leaf, pair,
      Component.bare_leaf])
  have greater := (inner.1 ⟨1, 0, 0⟩).2 ⟨_, _, first, second, by decide⟩
  exact (outer.1 ⟨1, 0, 0⟩).2 ⟨_, _, greater, third, by decide⟩

/-- A list that ends in the middle of a namespace has no specificity and is not refused, and so it
is with another list before it. With another list behind it, it is refused, although neither of the
two is. -/
theorem not_isRefused_comma_iff :
    specificity "b,*|".toList = .error .missingAttribute ∧ IsRefused "*|,b".toList ∧
    ¬∀ (first second : Text) (content further both : List Component), first ≠ [] → second ≠ [] →
      components? first = some content → components? second = some further →
      components? (first ++ ',' :: second) = some both →
      both.map Component.bare = (content ++ .leaf .start (.literal [',']) ::
        further).map Component.bare →
      (IsRefused (first ++ ',' :: second) ↔ IsRefused first ∨ IsRefused second) ∧
      (¬IsRefused (first ++ ',' :: second) → ∃ a b, specificity first = .ok a ∧
        specificity second = .ok b ∧
        specificity (first ++ ',' :: second) = .ok (a.join b)) := by
  let leaf (column : Nat) (token : Token) : Component := .leaf ⟨1, column⟩ token
  let name := leaf 1 (.ident ['b'])
  let bar := [leaf 1 (.literal ['*']), leaf 2 (.literal ['|'])]
  let both := [name, leaf 2 (.literal [',']), leaf 3 (.literal ['*']), leaf 4 (.literal ['|'])]
  have one : components? "b".toList = some [name] := by decide +kernel +zetaReduce
  have two : components? "*|".toList = some bar := by decide +kernel +zetaReduce
  have whole : components? ("b".toList ++ ',' :: "*|".toList) = some both := by
    decide +kernel +zetaReduce
  have parts : both.map Component.bare =
      ([name] ++ .leaf .start (.literal [',']) :: bar).map Component.bare := by
    simp [both, name, bar, leaf, Component.bare_leaf]
  have second : specificity "*|".toList = .error .missingAttribute := by decide +kernel +zetaReduce
  have refused : IsRefused "*|,b".toList := ⟨.selectorSyntax "'*|,b'".toList .noLocalName
    (some (leaf 3 (.literal [',']))), by decide +kernel +zetaReduce, rfl⟩
  have missing : specificity "b,*|".toList = .error .missingAttribute := by decide +kernel
  refine ⟨missing, refused, fun claim => ?_⟩
  obtain ⟨-, returns⟩ := claim _ _ _ _ _ (by decide) (by decide) one two whole parts
  obtain ⟨a, b, -, found, -⟩ := returns (not_isRefused_of_missing missing)
  cases second.symm.trans found

end Selector
end StyleScore
