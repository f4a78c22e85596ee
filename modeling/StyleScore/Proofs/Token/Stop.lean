import StyleScore.Token.Scan

/-!
Where tokens end. A blank, a comma and a closing round bracket are part of no token that begins
before them, strings and comments apart: what is read from a text stays the same when such a
character and anything behind it follow.
-/
namespace StyleScore.Scan

/-- Whether all characters of a list have a property is found out one by one. -/
instance decidableForallMem {p : Char → Prop} [DecidablePred p] (chars : List Char) :
    Decidable (∀ c ∈ chars, p c) :=
  List.decidableBAll p chars

/-- The characters that end a token before them. -/
def breaks (c : Char) : Bool := isSpace c || c = ',' || c = ')'

/-- Nothing, or a character that ends a token before it with anything behind it. -/
def Stop (text : Text) : Prop := ∀ c ∈ text.head?, breaks c = true

theorem Stop.nil : Stop [] := by
  rintro c ⟨⟩

/-- Everything that tokens test for is false of a character that ends them. -/
theorem fails_of_breaks {p : Char → Bool} (fails : ∀ c ∈ [' ', '\n', '\t', ',', ')'], p c = false)
    {c : Char} (ends : breaks c = true) : p c = false := by
  apply fails
  simpa [breaks, isSpace, or_assoc] using ends

theorem Stop.head_fails {more : Text} {p : Char → Bool} (stop : Stop more)
    (fails : ∀ c ∈ [' ', '\n', '\t', ',', ')'], p c = false) : ∀ c ∈ more.head?, p c = false :=
  fun c head => fails_of_breaks fails (stop c head)

theorem takeWhile_append_of_stop {p : Char → Bool} {more : Text}
    (stop : ∀ c ∈ more.head?, p c = false) (text : Text) :
    (text ++ more).takeWhile p = text.takeWhile p := by
  induction text with
  | nil =>
    cases more with
    | nil => rfl
    | cons c rest => simp [stop c rfl]
  | cons c rest ih =>
    rw [List.cons_append, List.takeWhile_cons, List.takeWhile_cons, ih]

theorem dropWhile_append_of_stop {p : Char → Bool} {more : Text}
    (stop : ∀ c ∈ more.head?, p c = false) (text : Text) :
    (text ++ more).dropWhile p = text.dropWhile p ++ more := by
  induction text with
  | nil =>
    cases more with
    | nil => rfl
    | cons c rest => simp [stop c rfl]
  | cons c rest ih =>
    rw [List.cons_append, List.dropWhile_cons, List.dropWhile_cons, ih]
    split <;> rfl

/-- A test of the next character that fails on what ends a token gives the same answer with more
text behind. -/
theorem head?_append_of_stop {p : Char → Bool} {more : Text} (stop : ∀ c ∈ more.head?, p c = false)
    (text : Text) : (text ++ more).head?.elim false p = text.head?.elim false p := by
  cases text with
  | nil =>
    cases more with
    | nil => rfl
    | cons c rest => simpa using stop c rfl
  | cons c rest => rfl

theorem mem_head?_append {P : Char → Prop} {left more : Text} (first : ∀ c ∈ left.head?, P c)
    (second : ∀ c ∈ more.head?, P c) : ∀ c ∈ (left ++ more).head?, P c := by
  cases left with
  | nil => exact second
  | cons d rest => exact first

/-- Some of the text is used, and none of it is a bracket or a quote. -/
def Uses (text left : Text) : Prop :=
  ∃ used, text = used ++ left ∧ ∀ c ∈ used, c ∉ ['[', ']', '"', '\'']

theorem Uses.refl (text : Text) : Uses text text := ⟨[], rfl, by simp⟩

theorem Uses.cons {c : Char} {text left : Text} (plain : c ∉ ['[', ']', '"', '\''])
    (uses : Uses text left) :
    Uses (c :: text) left := by
  obtain ⟨used, rfl, fine⟩ := uses
  refine ⟨c :: used, rfl, ?_⟩
  intro d member
  rcases List.mem_cons.1 member with rfl | member
  · exact plain
  · exact fine d member

theorem Uses.trans {text middle left : Text} (first : Uses text middle)
    (second : Uses middle left) :
    Uses text left := by
  obtain ⟨used, rfl, fine⟩ := first
  obtain ⟨more, rfl, fineToo⟩ := second
  refine ⟨used ++ more, by simp, ?_⟩
  intro c member
  rcases List.mem_append.1 member with early | late
  · exact fine c early
  · exact fineToo c late

/-- A class without brackets and quotes. -/
theorem not_mem_of_class {p : Char → Bool} (plain : ∀ c ∈ ['[', ']', '"', '\''], p c = false)
    {c : Char} (own : p c = true) : c ∉ ['[', ']', '"', '\''] := by
  intro special
  cases own.symm.trans (plain c special)

/-- Dropping characters of a class uses them. -/
theorem uses_dropWhile {p : Char → Bool} (plain : ∀ c ∈ ['[', ']', '"', '\''], p c = false)
    (text : Text) :
    Uses text (text.dropWhile p) := by
  induction text with
  | nil => exact .refl []
  | cons c rest ih =>
    rw [List.dropWhile_cons]
    split
    · next own => exact ih.cons (not_mem_of_class plain own)
    · exact .refl _

theorem uses_of_isPrefix {p : Char → Bool} (plain : ∀ c ∈ ['[', ']', '"', '\''], p c = false)
    {text read : Text} (start : read <+: text) (own : ∀ c ∈ read, p c = true) :
    Uses text (text.drop read.length) := by
  obtain ⟨left, rfl⟩ := start
  exact ⟨read, by simp, fun c member => not_mem_of_class plain (own c member)⟩

/-! ### Names -/

theorem startsEscape_of_ne {c : Char} {rest : Text} (plain : c ≠ '\\') :
    startsEscape (c :: rest) = false := by
  unfold startsEscape
  split
  · next same => exact absurd (List.cons.inj same).1 plain
  · rfl

theorem Stop.startsEscape {more : Text} (stop : Stop more) : startsEscape more = false := by
  cases more with
  | nil => rfl
  | cons c rest =>
    apply startsEscape_of_ne
    rintro rfl
    cases stop _ rfl

/-- A name ends where a character stops it, if the text holds no backslash. -/
theorem takeName_append {more : Text} (stop : Stop more) (text : Text) (plain : '\\' ∉ text) :
    takeName (text ++ more) = ((takeName text).1, (takeName text).2 ++ more) ∧
    Uses text (takeName text).2 := by
  induction text with
  | nil =>
    have nothing : takeName [] = ([], []) := by rw [takeName]
    refine ⟨?_, nothing ▸ .refl []⟩
    cases more with
    | nil => simp [nothing]
    | cons c rest =>
      have other : isNameChar c = false := fails_of_breaks (by decide) (stop c rfl)
      have escape := stop.startsEscape
      simp [takeName, other, escape]
  | cons c rest ih =>
    obtain ⟨same, uses⟩ := ih fun member => plain (List.mem_cons_of_mem c member)
    have escape (tail : Text) : startsEscape (c :: tail) = false :=
      startsEscape_of_ne fun backslash => plain (by simp [backslash])
    rw [List.cons_append, takeName, takeName]
    by_cases own : isNameChar c = true
    · simp only [own, if_true, same]
      exact ⟨trivial, uses.cons (not_mem_of_class (p := isNameChar) (by decide) own)⟩
    · simp only [own, escape]
      exact ⟨rfl, .refl _⟩

theorem startsEscape_append {more : Text} (stop : Stop more) (text : Text) (plain : '\\' ∉ text) :
    startsEscape (text ++ more) = startsEscape text := by
  cases text with
  | nil => exact stop.startsEscape
  | cons c rest =>
    have other : c ≠ '\\' := fun backslash => plain (by simp [backslash])
    rw [List.cons_append, startsEscape_of_ne other, startsEscape_of_ne other]

theorem startsIdent_append {more : Text} (stop : Stop more) (text : Text) (plain : '\\' ∉ text) :
    startsIdent (text ++ more) = startsIdent text := by
  have nameStart : ∀ c ∈ more.head?, isNameStart c = false := stop.head_fails (by decide)
  have hyphenated : ∀ c ∈ more.head?, (isNameStart c || c = '-') = false :=
    stop.head_fails (by decide)
  cases text with
  | nil =>
    cases more with
    | nil => rfl
    | cons c rest =>
      have hyphen : c ≠ '-' := by
        rintro rfl
        cases stop _ rfl
      have none := stop.startsEscape
      simp only [List.nil_append]
      unfold startsIdent
      simp_all
  | cons c rest =>
    have fine : '\\' ∉ rest := fun member => plain (List.mem_cons_of_mem c member)
    by_cases hyphen : c = '-'
    · subst hyphen
      simp only [List.cons_append, startsIdent, startsEscape_append stop rest fine,
        head?_append_of_stop hyphenated]
    · have own := startsEscape_append stop (c :: rest) plain
      rw [List.cons_append] at own ⊢
      unfold startsIdent
      simp_all

/-! ### Numbers -/

/-- The characters of numbers. -/
def isNumberChar (c : Char) : Bool :=
  c.isDigit || c = '.' || c = 'e' || c = 'E' || c = '+' || c = '-'

theorem drop_length_takeWhile {p : Char → Bool} (text : Text) :
    text.drop (text.takeWhile p).length = text.dropWhile p := by
  have whole := List.takeWhile_append_dropWhile (p := p) (l := text)
  calc text.drop (text.takeWhile p).length
      = (text.takeWhile p ++ text.dropWhile p).drop (text.takeWhile p).length := by rw [whole]
    _ = text.dropWhile p := List.drop_left

theorem all_takeWhile {p : Char → Bool} (text : Text) : ∀ c ∈ text.takeWhile p, p c = true := by
  induction text with
  | nil => simp
  | cons c rest ih =>
    rw [List.takeWhile_cons]
    split
    · next own =>
      intro d member
      rcases List.mem_cons.1 member with rfl | member
      · exact own
      · exact ih d member
    · simp

theorem isNumberChar_of_isDigit {c : Char} (digit : c.isDigit = true) : isNumberChar c = true := by
  simp [isNumberChar, digit]

/-- The decimals with their point, at the start of the text. -/
def decimals : Text → Text
  | '.' :: tail =>
  if tail.takeWhile Char.isDigit = [] then [] else '.' :: tail.takeWhile Char.isDigit
  | _ => []

theorem mantissa_eq (text : Text) :
    mantissa text = text.takeWhile Char.isDigit ++ decimals (text.dropWhile Char.isDigit) := by
  unfold mantissa
  dsimp only
  rw [drop_length_takeWhile]
  generalize text.takeWhile Char.isDigit = whole
  generalize text.dropWhile Char.isDigit = tail
  cases tail with
  | nil => simp [decimals]
  | cons c rest =>
    by_cases point : c = '.'
    · subst point
      simp only [decimals]
      cases rest.takeWhile Char.isDigit <;> simp
    · simp [decimals, point]

theorem decimals_append {more : Text} (stop : Stop more) (text : Text) :
    decimals (text ++ more) = decimals text := by
  have digits : ∀ c ∈ more.head?, c.isDigit = false := stop.head_fails (by decide)
  cases text with
  | nil =>
    cases more with
    | nil => rfl
    | cons c rest =>
      have point : c ≠ '.' := by
        rintro rfl
        cases stop _ rfl
      simp [decimals, point]
  | cons c tail =>
    by_cases point : c = '.'
    · subst point
      simp only [List.cons_append, decimals, takeWhile_append_of_stop digits]
    · simp [decimals, point]

theorem mantissa_append {more : Text} (stop : Stop more) (text : Text) :
    mantissa (text ++ more) = mantissa text := by
  have digits : ∀ c ∈ more.head?, c.isDigit = false := stop.head_fails (by decide)
  rw [mantissa_eq, mantissa_eq, takeWhile_append_of_stop digits, dropWhile_append_of_stop digits,
    decimals_append stop]

theorem decimals_isPrefix (text : Text) :
    decimals text <+: text ∧ ∀ c ∈ decimals text, isNumberChar c = true := by
  unfold decimals
  split
  · next tail =>
    split
    · exact ⟨List.nil_prefix, by simp⟩
    · refine ⟨List.cons_prefix_cons.2 ⟨rfl, List.takeWhile_prefix _⟩, ?_⟩
      intro c member
      rcases List.mem_cons.1 member with rfl | member
      · decide
      · exact isNumberChar_of_isDigit (all_takeWhile tail c member)
  · exact ⟨List.nil_prefix, by simp⟩

theorem mantissa_isPrefix (text : Text) :
    mantissa text <+: text ∧ ∀ c ∈ mantissa text, isNumberChar c = true := by
  obtain ⟨⟨rest, whole⟩, own⟩ := decimals_isPrefix (text.dropWhile Char.isDigit)
  rw [mantissa_eq]
  refine ⟨⟨rest, ?_⟩, ?_⟩
  · rw [List.append_assoc, whole, List.takeWhile_append_dropWhile]
  · intro c member
    rcases List.mem_append.1 member with early | late
    · exact isNumberChar_of_isDigit (all_takeWhile text c early)
    · exact own c late

theorem exponent_append {more : Text} (stop : Stop more) (text : Text) :
    exponent (text ++ more) = exponent text := by
  have digits : ∀ c ∈ more.head?, c.isDigit = false := stop.head_fails (by decide)
  have mark : ∀ c ∈ more.head?, (c = 'e' || c = 'E') = false := stop.head_fails (by decide)
  have sign : ∀ c ∈ more.head?, (c = '+' || c = '-') = false := stop.head_fails (by decide)
  cases text with
  | nil =>
    cases more with
    | nil => rfl
    | cons c rest =>
      have other := mark c rfl
      simp only [List.nil_append, exponent, other]
      rfl
  | cons e rest =>
    have signs : ((rest ++ more).take 1).filter (fun c => c = '+' || c = '-') =
        (rest.take 1).filter fun c => c = '+' || c = '-' := by
      cases rest with
      | nil =>
        cases more with
        | nil => rfl
        | cons c tail => simp [sign c rfl]
      | cons c tail => rfl
    have short : ((rest.take 1).filter fun c => c = '+' || c = '-').length ≤ rest.length :=
      Nat.le_trans (List.length_filter_le _ _) (List.length_take_le' 1 rest)
    simp only [List.cons_append, exponent, signs]
    rw [List.drop_append_of_le_length short, takeWhile_append_of_stop digits]

theorem exponent_isPrefix (text : Text) :
    exponent text <+: text ∧ ∀ c ∈ exponent text, isNumberChar c = true := by
  unfold exponent
  split
  · exact ⟨List.nil_prefix, by simp⟩
  · next e rest =>
    split
    · next mark =>
      dsimp only
      generalize signed : (rest.take 1).filter (fun c => c = '+' || c = '-') = sign
      have start : sign <+: rest := by
        rw [← signed]
        cases rest with
        | nil => exact List.nil_prefix
        | cons c tail => by_cases own : (c = '+' || c = '-') = true <;> simp [own]
      have signs : ∀ c ∈ sign, isNumberChar c = true := by
        intro c member
        rw [← signed] at member
        have own := (List.mem_filter.1 member).2
        rw [Bool.or_eq_true, decide_eq_true_eq, decide_eq_true_eq] at own
        rcases own with rfl | rfl <;> decide
      split
      · exact ⟨List.nil_prefix, by simp⟩
      · obtain ⟨tail, rfl⟩ := start
        rw [List.drop_left]
        refine ⟨List.cons_prefix_cons.2 ⟨rfl, ?_⟩, ?_⟩
        · exact List.prefix_append_right_inj _ |>.2 (List.takeWhile_prefix _)
        · intro c member
          rcases List.mem_cons.1 member with rfl | member
          · rw [Bool.or_eq_true, decide_eq_true_eq, decide_eq_true_eq] at mark
            rcases mark with rfl | rfl <;> decide
          · rcases List.mem_append.1 member with early | late
            · exact signs c early
            · exact isNumberChar_of_isDigit (all_takeWhile tail c late)
    · exact ⟨List.nil_prefix, by simp⟩

/-- A number ends where a character stops it. -/
theorem takeUnsigned_append {more : Text} (stop : Stop more) (text : Text) :
    takeUnsigned (text ++ more) = (takeUnsigned text).map fun (written, left) =>
      (written, left ++ more) := by
  have first := (mantissa_isPrefix text).1.length_le
  have second := (exponent_isPrefix (text.drop (mantissa text).length)).1.length_le
  rw [List.length_drop] at second
  unfold takeUnsigned
  dsimp only
  rw [mantissa_append stop]
  split
  · rfl
  · rw [List.drop_append_of_le_length first, exponent_append stop, List.drop_append_of_le_length]
    · rfl
    · rw [List.length_append]
      omega

theorem uses_takeUnsigned {text written left : Text}
    (read : takeUnsigned text = some (written, left)) :
    Uses text left := by
  obtain ⟨⟨rest, whole⟩, digits⟩ := mantissa_isPrefix text
  have exponents := exponent_isPrefix rest
  unfold takeUnsigned at read
  dsimp only at read
  split at read
  · cases read
  · obtain ⟨rfl, rfl⟩ := Prod.mk.inj (Option.some.inj read)
    have tail : text.drop (mantissa text).length = rest := by
      conv => lhs; arg 2; rw [← whole]
      exact List.drop_left
    rw [tail]
    refine uses_of_isPrefix (p := isNumberChar) (by decide) ?_ ?_
    · conv => rhs; rw [← whole]
      exact (List.prefix_append_right_inj _).2 exponents.1
    · intro c member
      rcases List.mem_append.1 member with early | late
      · exact digits c early
      · exact exponents.2 c late

theorem takeNumber_append {more : Text} (stop : Stop more) (text : Text) :
    takeNumber (text ++ more) = (takeNumber text).map fun (written, left) =>
      (written, left ++ more) := by
  have sign : ∀ c ∈ more.head?, (c = '+' || c = '-') = false := stop.head_fails (by decide)
  cases text with
  | nil =>
    cases more with
    | nil => rfl
    | cons c rest =>
      have unsigned := takeUnsigned_append stop []
      have plain := sign c rfl
      rw [List.nil_append] at unsigned ⊢
      change (if (c = '+' || c = '-') = true then _ else takeUnsigned (c :: rest)) = none
      rw [plain, if_neg Bool.false_ne_true, unsigned]
      rfl
  | cons c rest =>
    rw [List.cons_append, takeNumber, takeNumber]
    split
    · rw [takeUnsigned_append stop]
      cases takeUnsigned rest <;> rfl
    · exact takeUnsigned_append stop (c :: rest)

theorem uses_takeNumber {text written left : Text} (read : takeNumber text = some (written, left)) :
    Uses text left := by
  cases text with
  | nil => cases read
  | cons c rest =>
    rw [takeNumber] at read
    split at read
    · next sign =>
      obtain ⟨⟨digits, after⟩, found, same⟩ := Option.map_eq_some_iff.1 read
      obtain ⟨-, rfl⟩ := Prod.mk.inj same
      refine (uses_takeUnsigned found).cons fun special => ?_
      have none : ∀ d ∈ ['[', ']', '"', '\''], (d = '+' || d = '-') = false := by decide
      rw [none c special] at sign
      cases sign
    · exact uses_takeUnsigned read

/-! ### Ranges, names and signs -/

theorem head_take_fails {p : Char → Bool} {more : Text}
    (stop : ∀ c ∈ more.head?, p c = false) (n : Nat) :
    ∀ c ∈ (more.take n).head?, p c = false := by
  intro c head
  cases more with
  | nil => simp at head
  | cons d rest =>
    cases n with
    | zero => simp at head
    | succ m =>
      obtain rfl : d = c := by simpa using head
      exact stop d rfl

theorem take_takeWhile_append {p : Char → Bool} {more : Text} (stop : ∀ c ∈ more.head?, p c = false)
    (n : Nat) (text : Text) : ((text ++ more).take n).takeWhile p = (text.take n).takeWhile p := by
  rw [List.take_append]
  exact takeWhile_append_of_stop (head_take_fails stop _) _

theorem takeWhile_take_isPrefix {p : Char → Bool} (n : Nat) (text : Text) :
    (text.take n).takeWhile p <+: text :=
  (List.takeWhile_prefix p).trans (List.take_prefix n text)

/-- What follows the first digits of a range of code points: a hyphen and more digits, or nothing of
it. -/
def rangeEnd (digits left : Text) : Nat × Nat × Text :=
  match left with
  | '-' :: c :: rest =>
    if isHexDigit c then
      (hexValue digits, hexValue (((c :: rest).take 6).takeWhile isHexDigit),
        (c :: rest).drop (((c :: rest).take 6).takeWhile isHexDigit).length)
    else (hexValue digits, hexValue digits, left)
  | _ => (hexValue digits, hexValue digits, left)

theorem takeRange_eq {text : Text}
    (unmarked : ∀ c ∈ ((text.take 6).dropWhile isHexDigit).head?, c ≠ '?') :
    takeRange text = rangeEnd ((text.take 6).takeWhile isHexDigit)
      (text.drop ((text.take 6).takeWhile isHexDigit).length) := by
  have marks : ((text.take 6).dropWhile isHexDigit).takeWhile (· = '?') = [] := by
    cases start : (text.take 6).dropWhile isHexDigit with
    | nil => rfl
    | cons c rest =>
      have other := unmarked c (by rw [start]; rfl)
      simp [other]
  unfold takeRange rangeEnd
  dsimp only
  rw [drop_length_takeWhile, marks]
  rfl

theorem rangeEnd_append {more : Text} (stop : Stop more) (digits left : Text) :
    rangeEnd digits (left ++ more) =
      ((rangeEnd digits left).1, (rangeEnd digits left).2.1,
        (rangeEnd digits left).2.2 ++ more) := by
  have hex : ∀ c ∈ more.head?, isHexDigit c = false := stop.head_fails (by decide)
  match left with
  | [] =>
    cases more with
    | nil => rfl
    | cons c rest =>
      have hyphen : c ≠ '-' := by
        rintro rfl
        cases stop _ rfl
      simp [rangeEnd, hyphen]
  | [c] =>
    by_cases hyphen : c = '-'
    · subst hyphen
      cases more with
      | nil => rfl
      | cons d rest => simp [rangeEnd, hex d rfl]
    · simp [rangeEnd, hyphen]
  | c :: d :: rest =>
    by_cases hyphen : c = '-'
    · subst hyphen
      have same := take_takeWhile_append hex 6 (d :: rest)
      have short := (takeWhile_take_isPrefix (p := isHexDigit) 6 (d :: rest)).length_le
      by_cases digit : isHexDigit d = true
      · simp only [List.cons_append] at same ⊢
        simp only [rangeEnd, digit, if_true, same]
        rw [← List.cons_append, List.drop_append_of_le_length short]
      · simp [rangeEnd, digit]
    · simp [rangeEnd, hyphen]

theorem uses_rangeEnd (digits left : Text) : Uses left (rangeEnd digits left).2.2 := by
  unfold rangeEnd
  split
  · next c rest =>
    split
    · refine Uses.cons (by decide) (uses_of_isPrefix (p := isHexDigit) (by decide) ?_ ?_)
      · exact takeWhile_take_isPrefix 6 (c :: rest)
      · exact all_takeWhile _
    · exact .refl _
  · exact .refl _

/-- A range of code points ends where a character stops it, if no question mark follows its
digits. -/
theorem takeRange_append {more : Text} (stop : Stop more) (text : Text)
    (plain : ∀ c ∈ (text.drop ((text.take 6).takeWhile isHexDigit).length).head?, c ≠ '?') :
    takeRange (text ++ more) =
        ((takeRange text).1, (takeRange text).2.1, (takeRange text).2.2 ++ more) ∧
      Uses text (takeRange text).2.2 := by
  have hex : ∀ c ∈ more.head?, isHexDigit c = false := stop.head_fails (by decide)
  have start := takeWhile_take_isPrefix (p := isHexDigit) 6 text
  have unmarked : ∀ c ∈ ((text.take 6).dropWhile isHexDigit).head?, c ≠ '?' := by
    intro c head
    apply plain c
    have cut : text.drop ((text.take 6).takeWhile isHexDigit).length =
        (text.take 6).dropWhile isHexDigit ++ text.drop 6 := by
      calc text.drop ((text.take 6).takeWhile isHexDigit).length
          = (text.take 6 ++ text.drop 6).drop ((text.take 6).takeWhile isHexDigit).length := by
            rw [List.take_append_drop]
        _ = (text.take 6).drop ((text.take 6).takeWhile isHexDigit).length ++ text.drop 6 :=
            List.drop_append_of_le_length (List.takeWhile_prefix _).length_le
        _ = _ := by rw [drop_length_takeWhile]
    rw [cut]
    cases tail : (text.take 6).dropWhile isHexDigit with
    | nil => rw [tail] at head; cases head
    | cons d rest => rw [tail] at head; exact head
  have unmarkedToo : ∀ c ∈ (((text ++ more).take 6).dropWhile isHexDigit).head?, c ≠ '?' := by
    rw [List.take_append, dropWhile_append_of_stop (head_take_fails hex _)]
    refine mem_head?_append unmarked ?_
    have marks := head_take_fails (stop.head_fails (p := (· = '?')) (by decide)) (6 - text.length)
    simpa using marks
  rw [takeRange_eq unmarked, takeRange_eq unmarkedToo, take_takeWhile_append hex,
    List.drop_append_of_le_length start.length_le, rangeEnd_append stop]
  refine ⟨rfl, Uses.trans ?_ (uses_rangeEnd _ _)⟩
  exact uses_of_isPrefix (p := isHexDigit) (by decide) start (all_takeWhile _)

/-- A name makes the same lexeme with more text behind it, if no bracket opens in the text. -/
theorem scanName_append {more : Text} (stop : Stop more) (text : Text) (escapeless : '\\' ∉ text)
    (closed : '(' ∉ text) :
    scanName (text ++ more) = ([.token (.ident (takeName text).1)], (takeName text).2 ++ more) := by
  obtain ⟨same, used, whole, -⟩ := takeName_append stop text escapeless
  have shut : ∀ c ∈ ((takeName text).2 ++ more).head?, c ≠ '(' := by
    refine mem_head?_append ?_ ?_
    · rintro c head rfl
      apply closed
      rw [whole]
      exact List.mem_append_right _ (List.mem_of_mem_head? head)
    · rintro c head rfl
      cases stop _ head
  unfold scanName
  rw [same]
  dsimp only
  split
  · next bracket => exact absurd rfl (shut '(' (by rw [bracket]; rfl))
  · rfl

/-- The brackets as lexemes. -/
def bracket? (c : Char) : Option Lexeme :=
  if c = '\x7b' then some (.opening (.block .curly))
  else if c = '[' then some (.opening (.block .square))
  else if c = '(' then some (.opening (.block .round))
  else if c = '\x7d' then some (.closing .curly)
  else if c = ']' then some (.closing .square)
  else if c = ')' then some (.closing .round)
  else none

/-- Two signs that make one token. -/
def isPair (c d : Char) : Bool := (c = '|' && d = '|') || (d = '=' && "~|^$*".toList.contains c)

/-- Apart from comments, a sign is a bracket, one of two that belong together, or stands alone. -/
theorem scanSign_eq {c : Char} (rest : Text) (plain : c ∉ ['/', '<']) :
    scanSign c rest =
      match bracket? c, rest with
      | some lexeme, rest => ([lexeme], rest)
      | none, d :: tail =>
        if isPair c d then ([.token (.literal [c, d])], tail)
        else ([.token (.literal [c])], d :: tail)
      | none, [] => ([.token (.literal [c])], []) := by
  unfold scanSign
  split <;> simp_all [bracket?, isPair]
  -- What is left is a sign alone, with none behind it that belongs to it.
  cases rest with
  | nil => rfl
  | cons d tail =>
    refine (if_neg ?_).symm
    rintro (⟨rfl, rfl⟩ | ⟨rfl, rfl | rfl | rfl | rfl | rfl⟩) <;> simp_all

/-- A sign makes the same literal with more text behind it. -/
theorem scanSign_append {c : Char} (rest : Text) (plain : c ∉ ['/', '<'])
    (single : bracket? c = none) :
    ∃ text left, (∀ more, Stop more →
      scanSign c (rest ++ more) = ([.token (.literal text)], left ++ more)) ∧
      Uses rest left ∧ text.head? = some c := by
  have alone {tail : Text} (apart : ∀ d ∈ tail.head?, isPair c d = false) :
      scanSign c tail = ([.token (.literal [c])], tail) := by
    rw [scanSign_eq _ plain, single]
    cases tail with
    | nil => rfl
    | cons d tail => simp [apart d rfl]
  have stops {more : Text} (stop : Stop more) : ∀ d ∈ more.head?, isPair c d = false :=
    stop.head_fails (by simp [isPair])
  cases rest with
  | nil => exact ⟨[c], [], fun more stop => alone (stops stop), .refl [], rfl⟩
  | cons d tail =>
    cases paired : isPair c d with
    | false =>
      refine ⟨[c], d :: tail, fun more stop => alone ?_, .refl _, rfl⟩
      rintro _ ⟨⟩
      exact paired
    | true =>
      refine ⟨[c, d], tail, fun more stop => ?_, ?_, rfl⟩
      · rw [scanSign_eq _ plain, single]
        simp [paired]
      · exact (Uses.refl tail).cons (not_mem_of_class (p := isPair c) (by simp [isPair]) paired)

end StyleScore.Scan
