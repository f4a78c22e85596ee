import StyleScore.Proofs.Selector.Impostor
import StyleScore.Proofs.Text.Lower
import StyleScore.Proofs.Text.Spacing

/-!
The logical pseudo-classes of a selector. They are looked for behind every colon, which finds what a
search from left to right finds (`sweep_eq`); each is found exactly where its name stands, as long
as every name is spelled right (`countP_logicalNames`); and a blank parts what stands on its two
sides (`logicalNames_tidy_join`). Main statement: the counts of a tidied selector are the numbers of
places where the names stand, unless something else stands there for a name (`logicalCounts_tidy`).
-/
namespace StyleScore.Text

/-- The number of places in a text behind which it goes on in a certain way. -/
def places (goesOn : Text → Bool) (text : Text) : Nat :=
  (List.range text.length).countP fun i => goesOn (text.drop i)

theorem places_cons (goesOn : Text → Bool) (c : Char) (text : Text) :
    places goesOn (c :: text) = (if goesOn (c :: text) then 1 else 0) + places goesOn text := by
  rw [places, List.length_cons, List.range_succ_eq_map, List.countP_cons, List.countP_map,
    Nat.add_comm]
  rfl

theorem takeWhile_collapseBlanks (text : Text) :
    (collapseBlanks text).takeWhile (fun c => !isBlank c) = text.takeWhile fun c => !isBlank c := by
  fun_induction collapseBlanks text with
  | case1 => rfl
  | case2 c => rfl
  | case3 c d rest blanks ih =>
    obtain ⟨first, -⟩ := Bool.and_eq_true_iff.1 blanks
    rw [ih, List.takeWhile_cons_of_neg (by decide), List.takeWhile_cons_of_neg (by simp [first])]
  | case4 c d rest solid ih =>
    rw [List.takeWhile_cons, List.takeWhile_cons, ih]

end StyleScore.Text

namespace StyleScore.Selector

open Text

/-! ### Blanks -/

/-- The character passes for no letter in the names of logical pseudo-classes. -/
def Divides (d : Char) : Prop := ∀ l : Logical, ∀ letter ∈ l.name, passesFor d letter = false

theorem divides_of_all {d : Char}
    (all : (Logical.all.all fun l => l.name.all fun letter => !passesFor d letter) = true) :
    Divides d := by
  intro l letter inside
  simpa using List.all_eq_true.1 (List.all_eq_true.1 all l l.mem_all) letter inside

theorem divides_colon : Divides ':' := divides_of_all (by decide)

theorem divides_of_isBlank {w : Char} (blank : isBlank w = true) : Divides w := by
  have all : (blankCodes.all fun n => Logical.all.all fun l => l.name.all fun letter =>
      !passesFor (Char.ofNat n) letter) = true := by decide +kernel
  have own := List.all_eq_true.1 all w.toNat (isBlank_iff.1 blank)
  rw [Char.ofNat_toNat] at own
  exact divides_of_all own

section Finding

variable {d w : Char} {front back rest text written : Text} {l : Logical}

theorem Divides.takeLogical?_append (divides : Divides d) (front back : Text) :
    takeLogical? (front ++ d :: back) = takeLogical? front := by
  have same (l : Logical) : takeAlike? l.name (front ++ d :: back) = takeAlike? l.name front :=
    takeAlike?_append_cons (divides l) front back
  simp only [takeLogical?, same]

theorem takeLogical?_takeWhile (text : Text) :
    takeLogical? (text.takeWhile fun c => !isBlank c) = takeLogical? text := by
  have whole := List.takeWhile_append_dropWhile (p := fun c => !isBlank c) (l := text)
  cases rest : text.dropWhile (fun c => !isBlank c) with
  | nil =>
    rw [rest, List.append_nil] at whole
    rw [whole]
  | cons w rest' =>
    have first := List.head?_dropWhile_not (fun c => !isBlank c) text
    rw [rest] at first whole
    have blank : isBlank w = true := by simpa using first
    conv_rhs => rw [← whole]
    rw [(divides_of_isBlank blank).takeLogical?_append]

theorem Divides.logicalNames_append (divides : Divides d) (other : d ≠ ':') (front back : Text) :
    logicalNames (front ++ d :: back) = logicalNames front ++ logicalNames back := by
  induction front with
  | nil => simp [logicalNames, other]
  | cons c front ih =>
    rw [List.cons_append, logicalNames, logicalNames, divides.takeLogical?_append, ih]
    split
    · rw [List.append_assoc]
    · rfl

theorem logicalNames_collapseBlanks (text : Text) :
    logicalNames (collapseBlanks text) = logicalNames text := by
  fun_induction collapseBlanks text with
  | case1 => rfl
  | case2 c => rfl
  | case3 c d rest blanks ih =>
    obtain ⟨first, second⟩ := Bool.and_eq_true_iff.1 blanks
    rw [ih, logicalNames, if_neg (by decide), logicalNames, if_neg (ne_colon_of_isBlank first),
      logicalNames, if_neg (ne_colon_of_isBlank second)]
  | case4 c d rest solid ih =>
    rw [logicalNames, logicalNames, ih, ← takeLogical?_takeWhile, takeWhile_collapseBlanks,
      takeLogical?_takeWhile]

theorem logicalNames_append_of_not_mem (free : ':' ∉ front) (back : Text) :
    logicalNames (front ++ back) = logicalNames back := by
  induction front with
  | nil => rfl
  | cons c front ih =>
    rw [List.mem_cons, not_or] at free
    rw [List.cons_append, logicalNames, if_neg (Ne.symm free.1), ih free.2]

theorem logicalNames_blanks {gap : Text} (blank : ∀ c ∈ gap, isBlank c = true) (rest : Text) :
    logicalNames (gap ++ rest) = logicalNames rest :=
  logicalNames_append_of_not_mem (fun member => ne_colon_of_isBlank (blank _ member) rfl) rest

theorem logicalNames_append_blanks {gap : Text} (blank : ∀ c ∈ gap, isBlank c = true)
    (text : Text) :
    logicalNames (text ++ gap) = logicalNames text := by
  cases gap with
  | nil => rw [List.append_nil]
  | cons w gap =>
    obtain ⟨first, others⟩ := List.forall_mem_cons.1 blank
    have none : logicalNames gap = [] := by
      rw [← List.append_nil gap, logicalNames_blanks others]
      rfl
    rw [(divides_of_isBlank first).logicalNames_append (ne_colon_of_isBlank first), none,
      List.append_nil]

theorem logicalNames_trim (text : Text) : logicalNames (trim text) = logicalNames text := by
  obtain ⟨before, after, blank, blankToo, whole⟩ := exists_around_trim text
  conv_rhs => rw [← whole, List.append_assoc, logicalNames_blanks blank,
    logicalNames_append_blanks blankToo]

/-- Blanks hold no names, so that all that counts is lower case. -/
theorem logicalNames_tidy (text : Text) : logicalNames (tidy text) = logicalNames (lower text) := by
  rw [tidy, logicalNames_trim, logicalNames_collapseBlanks]

theorem logicalNames_tidy_join (text other : Text) :
    logicalNames (tidy (text ++ ' ' :: other)) = logicalNames (tidy text) ++
      logicalNames (tidy other) := by
  have blank : isBlank ' ' = true := by decide
  rw [logicalNames_tidy, lower_append_blank blank,
    (divides_of_isBlank blank).logicalNames_append (by decide), logicalNames_tidy,
    logicalNames_tidy]

/-! ### The search -/

/-- A search from left to right for a colon with a name behind it, which goes on behind the name;
`skip` characters are left out first. -/
def sweep : (skip : Nat) → Text → List (Logical × Text)
  | _, [] => []
  | skip + 1, _ :: rest => sweep skip rest
  | 0, c :: rest =>
    match if c = ':' then takeLogical? rest else none with
    | some (l, written) => (l, written) :: sweep written.length rest
    | none => sweep 0 rest

theorem colon_not_mem (found : takeLogical? rest = some (l, written)) : ':' ∉ written := by
  intro member
  obtain ⟨letter, inside, passes⟩ := (takeLogical?_spec found).2.exists_letter member
  cases passes.symm.trans (divides_colon l letter inside)

/-- Looking behind every colon finds what the search finds: no name has a colon in it that could be
left out. -/
theorem sweep_eq (skip : Nat) (text : Text) : sweep skip text = logicalNames (text.drop skip) := by
  induction text generalizing skip with
  | nil =>
    rw [List.drop_nil]
    cases skip <;> rfl
  | cons c rest ih =>
    cases skip with
    | succ skip => exact ih skip
    | zero =>
      rw [sweep, List.drop_zero, logicalNames]
      by_cases colon : c = ':'
      · rw [if_pos colon, if_pos colon]
        cases found : takeLogical? rest with
        | none => exact ih 0
        | some pair =>
          obtain ⟨l, written⟩ := pair
          obtain ⟨more, rfl⟩ := (takeLogical?_spec found).1
          dsimp only
          rw [ih, List.drop_left, Option.toList_some,
            logicalNames_append_of_not_mem (colon_not_mem found)]
          rfl
      · rw [if_neg colon, if_neg colon]
        exact ih 0

/-! ### The counts -/

theorem takeLogical?_name (l : Logical) (rest : Text) :
    takeLogical? (l.name ++ rest) = some (l, l.name) := by
  cases l <;> rfl

/-- A name that is spelled right is the name. -/
theorem eq_name_of_spellings :
    ∀ l ∈ Logical.all, ∀ written ∈ spellings l.name, lower written = l.name → written = l.name := by
  decide +kernel

theorem eq_name_of_takeLogical? (small : IsSmall rest)
    (found : takeLogical? rest = some (l, written)) (right : lower written = l.name) :
    written = l.name ∧ l.name <+: rest := by
  obtain ⟨spelled, start⟩ := spellings_of_takeLogical? small found
  obtain rfl := eq_name_of_spellings l l.mem_all _ spelled right
  exact ⟨rfl, start⟩

/-- Names that are spelled right are found exactly where they stand. -/
theorem countP_takeLogical? (small : IsSmall rest)
    (right : ∀ l written, takeLogical? rest = some (l, written) → lower written = l.name)
    (chosen : Logical → Bool) :
    (takeLogical? rest).toList.countP (fun name => chosen name.1) =
      if Logical.all.any fun l => chosen l &&
        startsWith (':' :: rest) (':' :: l.name) then 1 else 0 := by
  have starts (l : Logical) : startsWith (':' :: rest) (':' :: l.name) = true ↔
      l.name <+: rest := by
    rw [startsWith_iff, List.cons_prefix_cons, and_iff_right rfl]
  have stands {l : Logical} (start : l.name <+: rest) : takeLogical? rest = some (l, l.name) := by
    obtain ⟨more, rfl⟩ := start
    exact takeLogical?_name l more
  cases found : takeLogical? rest with
  | none =>
    have nothing : ∀ l : Logical, startsWith (':' :: rest) (':' :: l.name) = false := by
      intro l
      rw [Bool.eq_false_iff, ne_eq, starts]
      intro start
      cases found.symm.trans (stands start)
    simp [nothing]
  | some pair =>
    obtain ⟨own, written⟩ := pair
    have start := (eq_name_of_takeLogical? small found (right own written found)).2
    have only : (Logical.all.any fun l => chosen l && startsWith (':' :: rest) (':' :: l.name)) =
        chosen own := by
      rw [Bool.eq_iff_iff, List.any_eq_true]
      constructor
      · rintro ⟨l, -, both⟩
        obtain ⟨picked, startToo⟩ := Bool.and_eq_true_iff.1 both
        cases found.symm.trans (stands ((starts l).1 startToo))
        exact picked
      · intro picked
        exact ⟨own, own.mem_all, Bool.and_eq_true_iff.2 ⟨picked, (starts own).2 start⟩⟩
    rw [only, Option.toList_some, List.countP_singleton]

theorem spelledRight_cons {c : Char} (right : SpelledRight (c :: rest)) :
    SpelledRight rest ∧ (c = ':' → ∀ l written, takeLogical? rest = some (l, written) →
      lower written = l.name) := by
  unfold SpelledRight at *
  rw [logicalNames] at right
  constructor
  · intro l written member
    refine right l written ?_
    split
    · exact List.mem_append_right _ member
    · exact member
  · rintro colon l written found
    refine right l written ?_
    rw [if_pos colon, found]
    exact List.mem_append_left _ (List.mem_singleton_self _)

/-- Counting what is found behind the colons counts the places where a colon and a name stand. -/
theorem countP_logicalNames (small : IsSmall text) (right : SpelledRight text)
    (chosen : Logical → Bool) :
    (logicalNames text).countP (fun name => chosen name.1) =
      places
        (fun rest => Logical.all.any fun l => chosen l && startsWith rest (':' :: l.name))
        text := by
  induction text with
  | nil => rfl
  | cons c rest ih =>
    have smallRest : IsSmall rest := small.of_subset fun d inside => List.mem_cons_of_mem c inside
    obtain ⟨later, here⟩ := spelledRight_cons right
    rw [places_cons, logicalNames]
    by_cases colon : c = ':'
    · subst colon
      rw [if_pos rfl, List.countP_append, countP_takeLogical? smallRest (here rfl),
        ih smallRest later]
    · have other (l : Logical) : startsWith (c :: rest) (':' :: l.name) = false := by
        rw [Bool.eq_false_iff, ne_eq, startsWith_iff, List.cons_prefix_cons]
        rintro ⟨same, -⟩
        exact colon same.symm
      rw [if_neg colon, ih smallRest later]
      simp [other]

theorem total_count (found : List Logical) :
    total (Logical.all.map fun l => found.count l) = found.length := by
  induction found with
  | nil => rfl
  | cons l found ih =>
    simp only [Logical.all, List.map_cons, List.map_nil, total] at ih ⊢
    rw [List.length_cons, ← ih]
    cases l <;> simp +arith

theorem logicalWeight_eq (text : Text) : logicalWeight text = (logicals text).map List.length := by
  unfold logicalWeight logicalCounts
  cases logicals text with
  | error e => rfl
  | ok found =>
    refine congrArg Except.ok ?_
    dsimp only
    rw [List.map_map]
    exact total_count found

theorem logicals_append {first second : Text}
    (names : logicalNames text = logicalNames first ++ logicalNames second) :
    logicals text = do return (← logicals first) ++ (← logicals second) := by
  unfold logicals
  dsimp only
  rw [names, List.all_append, List.map_append]
  cases (logicalNames first).all fun name => lower name.2 = name.1.name <;>
    cases (logicalNames second).all fun name => lower name.2 = name.1.name <;> rfl

theorem logicalWeight_join (text other : Text) :
    logicalWeight (tidy (text ++ ' ' :: other)) = do
      return (← logicalWeight (tidy text)) + (← logicalWeight (tidy other)) := by
  rw [logicalWeight_eq, logicalWeight_eq, logicalWeight_eq,
    logicals_append (logicalNames_tidy_join text other)]
  cases logicals (tidy text) with
  | error e => rfl
  | ok found =>
    cases logicals (tidy other) with
    | error e => rfl
    | ok others => exact congrArg Except.ok List.length_append

end Finding

/-! ### Letters that stand for others -/

/-- A character stands for a small letter where case does not count: it is that letter in lower
case, the dotted capital I being an `i` there, or it is the long s for an `s` or the dotless i for
an `i`. -/
def StandsFor (c letter : Char) : Prop :=
  (if c = 'İ' then 'i' else lowerChar c) = letter ∨ (letter = 's' ∧ c = 'ſ') ∨
    (letter = 'i' ∧ c = 'ı')

/-- Behind a colon stands a logical pseudo-class where case does not count, and not all of it is
letters of ASCII. -/
def NamesLookAlike (text : Text) : Prop :=
  ∃ (l : Logical) (written : Text), (':' :: written) <:+: text ∧
    List.Forall₂ StandsFor written l.name ∧
    ∃ c ∈ written, c.isAlpha = false

theorem isLowercase_tidy (text : Text) : IsLowercase (tidy text) := by
  intro c member
  rcases mem_of_mem_collapseBlanks (mem_of_mem_trim member) with rfl | inside
  · decide +kernel
  · exact isLowercase_lower text c inside

/-- In a text in lower case the letters that stand for others are those that pass for them. -/
theorem standsFor_iff {c letter : Char} (small : c.toLower = c)
    (lowercase : c ≠ 'İ' ∧ lowerChar c = c) :
    StandsFor c letter ↔ passesFor c letter = true := by
  simp [StandsFor, passesFor, small, lowercase, or_assoc]

theorem impostor_of_spellings : ∀ l ∈ Logical.all, ∀ written ∈ spellings l.name,
    written.any (fun c => !c.isAlpha) = true → written ∈ impostors := by
  decide +kernel

theorem lookAlike_of_impostor {name : Text} (impostor : name ∈ impostors) :
    ∃ l : Logical, Alike name l.name ∧ name.any (fun c => !c.isAlpha) = true := by
  simp only [impostors, List.mem_cons, List.not_mem_nil, or_false] at impostor
  rcases impostor with rfl | rfl | rfl | rfl
  · exact ⟨.oneOf, .cons rfl (.cons rfl .nil), rfl⟩
  · exact ⟨.oneOf, .cons rfl (.cons rfl .nil), rfl⟩
  · exact ⟨.oneOf, .cons rfl (.cons rfl .nil), rfl⟩
  · exact ⟨.has, .cons rfl (.cons rfl (.cons rfl .nil)), rfl⟩

theorem forall₂_standsFor_iff {written : Text}
    (plain : ∀ c ∈ written, c.toLower = c ∧ c ≠ 'İ' ∧ lowerChar c = c) (word : Text) :
    List.Forall₂ StandsFor written word ↔ Alike written word := by
  unfold Alike
  induction written generalizing word with
  | nil => rw [List.forall₂_nil_left_iff, List.forall₂_nil_left_iff]
  | cons c written ih =>
    obtain ⟨⟨small, lowercase⟩, others⟩ := List.forall_mem_cons.1 plain
    simp only [List.forall₂_cons_left_iff, standsFor_iff small lowercase, ih others]

theorem namesLookAlike_iff {text : Text} (small : IsSmall text) (lowercase : IsLowercase text) :
    NamesLookAlike text ↔ NamesImpostor text := by
  have within {written : Text} (inside : (':' :: written) <:+: text) (word : Text) :
      List.Forall₂ StandsFor written word ↔ Alike written word := by
    refine forall₂_standsFor_iff (fun c member => ?_) word
    have own : c ∈ text := inside.subset (List.mem_cons_of_mem _ member)
    exact ⟨small c own, (lowercase c own).2⟩
  constructor
  · rintro ⟨l, written, inside, stands, c, member, foreign⟩
    have smallToo : IsSmall written :=
      small.of_subset fun d own => inside.subset (List.mem_cons_of_mem _ own)
    have spelled := mem_spellings smallToo ((within inside l.name).1 stands)
    have foreignToo : written.any (fun c => !c.isAlpha) = true :=
      List.any_eq_true.2 ⟨c, member, by simp [foreign]⟩
    exact ⟨written, impostor_of_spellings l l.mem_all written spelled foreignToo, inside⟩
  · rintro ⟨name, impostor, inside⟩
    obtain ⟨l, alike, foreign⟩ := lookAlike_of_impostor impostor
    obtain ⟨c, member, foreign⟩ := List.any_eq_true.1 foreign
    exact ⟨l, name, inside, (within inside l.name).2 alike, c, member, by simpa using foreign⟩

theorem any_beq_and (l : Logical) (test : Logical → Bool) :
    (Logical.all.any fun k => k == l && test k) = test l := by
  rw [Bool.eq_iff_iff, List.any_eq_true]
  constructor
  · rintro ⟨k, -, both⟩
    obtain ⟨same, passed⟩ := (Bool.and_eq_true _ _).mp both
    exact beq_iff_eq.1 same ▸ passed
  · intro passed
    exact ⟨l, l.mem_all, by simp [passed]⟩

/-- Of a tidied selector, the names found are those of a search from left to right. The counts fail
where something else stands for a name, and are else the numbers of places where the names stand,
which add up over selectors joined with a space. -/
theorem logicalCounts_tidy (text other : Text) :
    logicalNames (tidy text) = sweep 0 (tidy text) ∧
    ((NamesLookAlike (tidy text) ∧ logicalCounts (tidy text) = .error .missingKey ∧
        logicalWeight (tidy text) = .error .missingKey) ∨
      (¬NamesLookAlike (tidy text) ∧
        logicalCounts (tidy text) =
          .ok (Logical.all.map fun l => (l, places (startsWith · (':' :: l.name)) (tidy text))) ∧
        logicalWeight (tidy text) =
          .ok (places (fun rest => Logical.all.any fun l => startsWith rest (':' :: l.name))
            (tidy text)))) ∧
    logicalWeight (tidy (text ++ ' ' :: other)) = (do
      return (← logicalWeight (tidy text)) + (← logicalWeight (tidy other))) := by
  have small := isSmall_tidy text
  refine ⟨(sweep_eq 0 (tidy text)).symm, ?_, logicalWeight_join text other⟩
  rw [namesLookAlike_iff small (isLowercase_tidy text), logicalWeight_eq, logicalCounts]
  rcases logicals_cases (tidy text) with ⟨right, counted⟩ | ⟨wrong, refused⟩
  · refine .inr ⟨(spelledRight_iff small).1 right, ?_, ?_⟩
    · rw [counted]
      refine congrArg Except.ok (List.map_congr_left fun l listed => ?_)
      have own := countP_logicalNames small right (· == l)
      rw [List.count, List.countP_map]
      simp only [any_beq_and l fun k => startsWith _ (':' :: k.name)] at own
      exact congrArg (l, ·) own
    · rw [counted]
      refine congrArg Except.ok ?_
      have all := countP_logicalNames small right fun _ => true
      simp only [Bool.true_and, List.countP_true] at all
      rw [List.length_map, all]
  · exact .inl ⟨((logicals_eq_error_iff small).1 refused).1, by rw [refused]; rfl,
      by rw [refused]; rfl⟩

end StyleScore.Selector
