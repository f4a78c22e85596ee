import StyleScore.Proofs.Outcome
import StyleScore.Proofs.Text.Search
import StyleScore.Proofs.Text.Small
import StyleScore.Selector.Score

/-!
Names that pass for a logical pseudo-class without being one. A look-alike letter is enough for a
name to be found, and such a name cannot be counted. Main statement: the complexity of a selector
that has a specificity fails exactly when an impostor stands behind one of its colons.
-/
namespace StyleScore.Selector

/-- What is found as a logical pseudo-class and is none of them. -/
def impostors : List Text := ["ıs".toList, "iſ".toList, "ıſ".toList, "haſ".toList]

/-- An impostor stands behind some colon. -/
def NamesImpostor (text : Text) : Prop := ∃ name ∈ impostors, (':' :: name) <:+: text

instance (text : Text) : Decidable (NamesImpostor text) :=
  inferInstanceAs (Decidable (∃ name ∈ impostors, (':' :: name) <:+: text))

/-- The characters other than capitals that pass for a letter. -/
def lookAlikes (letter : Char) : List Char :=
  letter :: (if letter = 's' then ['ſ'] else []) ++ (if letter = 'i' then ['ı'] else [])

/-- The ways to write a word without capitals so that it is found. -/
def spellings : Text → List Text
  | [] => [[]]
  | letter :: word => (lookAlikes letter).flatMap fun c => (spellings word).map (c :: ·)

theorem mem_lookAlikes {c letter : Char} (small : c.toLower = c)
    (passes : Text.passesFor c letter = true) :
    c ∈ lookAlikes letter := by
  simp only [Text.passesFor, small, Bool.or_eq_true, Bool.and_eq_true, decide_eq_true_eq] at passes
  rcases passes with (rfl | ⟨rfl, rfl⟩) | ⟨rfl, rfl⟩
  · simp [lookAlikes]
  · decide
  · decide

theorem mem_spellings {written word : Text} (small : Text.IsSmall written)
    (alike : Text.Alike written word) :
    written ∈ spellings word := by
  induction alike with
  | nil => exact List.mem_singleton_self _
  | cons passes others ih =>
    obtain ⟨own, rest⟩ := List.forall_mem_cons.1 small
    exact List.mem_flatMap.2 ⟨_, mem_lookAlikes own passes, List.mem_map.2 ⟨_, ih rest, rfl⟩⟩

theorem Logical.mem_all (l : Logical) : l ∈ Logical.all := by
  cases l <;> decide

theorem takeLogical?_spec {rest written : Text} {l : Logical}
    (found : takeLogical? rest = some (l, written)) :
    written <+: rest ∧ Text.Alike written l.name := by
  obtain ⟨other, -, found⟩ := List.exists_of_findSome?_eq_some found
  obtain ⟨same, taken, pair⟩ := Option.map_eq_some_iff.1 found
  obtain ⟨rfl, rfl⟩ := Prod.mk.inj pair
  exact Text.takeAlike?_eq_some_iff.1 taken

/-- What is found in a text without capitals is one of the ways to write its name. -/
theorem spellings_of_takeLogical? {rest written : Text} {l : Logical} (small : Text.IsSmall rest)
    (found : takeLogical? rest = some (l, written)) : written ∈ spellings l.name ∧
      written <+: rest := by
  obtain ⟨start, alike⟩ := takeLogical?_spec found
  exact ⟨mem_spellings (small.of_subset start.subset) alike, start⟩

/-- Without capitals, a name is either spelled right or one of the impostors. -/
theorem right_or_impostor :
    ∀ l ∈ Logical.all, ∀ written ∈ spellings l.name, Text.lower written = l.name ∨
      written ∈ impostors := by
  decide +kernel

theorem impostor_of_takeLogical? {rest written : Text} {l : Logical} (small : Text.IsSmall rest)
    (found : takeLogical? rest = some (l, written)) (wrong : Text.lower written ≠ l.name) :
    written ∈ impostors ∧ written <+: rest := by
  obtain ⟨spelled, start⟩ := spellings_of_takeLogical? small found
  rcases right_or_impostor l l.mem_all _ spelled with right | impostor
  · exact absurd right wrong
  · exact ⟨impostor, start⟩

theorem takeLogical?_impostor {name : Text} (impostor : name ∈ impostors) (rest : Text) :
    ∃ l, takeLogical? (name ++ rest) = some (l, name) ∧ Text.lower name ≠ l.name := by
  simp only [impostors, List.mem_cons, List.not_mem_nil, or_false] at impostor
  rcases impostor with rfl | rfl | rfl | rfl
  · exact ⟨.oneOf, rfl, by decide +kernel⟩
  · exact ⟨.oneOf, rfl, by decide +kernel⟩
  · exact ⟨.oneOf, rfl, by decide +kernel⟩
  · exact ⟨.has, rfl, by decide +kernel⟩

/-- The names are found behind colons. -/
theorem mem_logicalNames {l : Logical} {written text : Text} :
    (l, written) ∈ logicalNames text ↔
      ∃ rest, (':' :: rest) <:+ text ∧ takeLogical? rest = some (l, written) := by
  induction text with
  | nil => simp [logicalNames]
  | cons c text ih =>
    by_cases colon : c = ':'
    · subst colon
      rw [logicalNames, if_pos rfl, List.mem_append, ih]
      simp [List.suffix_cons_iff, or_and_right, exists_or]
    · rw [logicalNames, if_neg colon, ih]
      simp [List.suffix_cons_iff, Ne.symm colon]

/-- All names that are found in the text are spelled right. -/
def SpelledRight (text : Text) : Prop :=
  ∀ l written, (l, written) ∈ logicalNames text → Text.lower written = l.name

theorem logicals_cases (text : Text) :
    (SpelledRight text ∧ logicals text = .ok ((logicalNames text).map Prod.fst)) ∨
      (¬SpelledRight text ∧ logicals text = .error .missingKey) := by
  have right : SpelledRight text ↔
      (logicalNames text).all (fun name => Text.lower name.2 = name.1.name) = true := by
    simp [SpelledRight, List.all_eq_true]
  unfold logicals
  dsimp only
  by_cases spelled : SpelledRight text
  · exact .inl ⟨spelled, if_pos (right.1 spelled)⟩
  · exact .inr ⟨spelled, if_neg (right.not.1 spelled)⟩

theorem spelledRight_iff {text : Text} (small : Text.IsSmall text) :
    SpelledRight text ↔ ¬NamesImpostor text := by
  constructor
  · rintro right ⟨name, impostor, before, after, whole⟩
    obtain ⟨l, found, wrong⟩ := takeLogical?_impostor impostor after
    refine wrong (right l name (mem_logicalNames.2 ⟨name ++ after, ⟨before, ?_⟩, found⟩))
    rw [← whole]
    simp
  · intro fine l written member
    by_contra wrong
    obtain ⟨rest, ends, found⟩ := mem_logicalNames.1 member
    have smallRest : Text.IsSmall rest :=
      small.of_subset fun c inside => ends.subset (by simp [inside])
    obtain ⟨impostor, start⟩ := impostor_of_takeLogical? smallRest found wrong
    exact fine ⟨written, impostor,
      (List.cons_prefix_cons.2 ⟨rfl, start⟩).isInfix.trans ends.isInfix⟩

theorem logicals_eq_error_iff {text : Text} {e : Error} (small : Text.IsSmall text) :
    logicals text = .error e ↔ NamesImpostor text ∧ e = .missingKey := by
  rcases logicals_cases text with ⟨right, counted⟩ | ⟨wrong, refused⟩
  · rw [counted]
    simp [(spelledRight_iff small).1 right]
  · rw [spelledRight_iff small, not_not] at wrong
    rw [refused, Except.error.injEq]
    simp [wrong, eq_comm]

theorem isSmall_tidy (text : Text) : Text.IsSmall (tidy text) :=
  (Text.isSmall_lower text).collapseBlanks.trim

/-- A selector has no complexity when it has no specificity, and else when it names an impostor. -/
theorem complexity_eq_error_iff {text : Text} {e : Error} :
    complexity text = .error e ↔
      specificity (tidy text) = .error e ∨
        (∃ found, specificity (tidy text) = .ok found) ∧ NamesImpostor (tidy text) ∧
          e = .missingKey := by
  have weight : logicalWeight (tidy text) = .error e ↔ NamesImpostor (tidy text) ∧
      e = .missingKey := by
    rw [logicalWeight, map_eq_error, logicalCounts, map_eq_error,
      logicals_eq_error_iff (isSmall_tidy text)]
  rw [complexity, complexityBy, bind_eq_error, specificityWeight, map_eq_error]
  refine or_congr_right ⟨?_, ?_⟩
  · rintro ⟨_, success, failure⟩
    obtain ⟨found, success, -⟩ := map_eq_ok.1 success
    rcases bind_eq_error.1 failure with named | ⟨_, _, impossible⟩
    · exact ⟨⟨found, success⟩, weight.1 named⟩
    · cases impossible
  · rintro ⟨⟨found, success⟩, named⟩
    exact ⟨_, map_eq_ok.2 ⟨found, success, rfl⟩, bind_eq_error.2 (.inl (weight.2 named))⟩

end StyleScore.Selector
