import StyleScore.Proofs.Json.Numeral
import StyleScore.Proofs.Json.Quotation

/-!
Reading JSON text. `ofText?` takes a text apart into marks, words and quoted texts and puts the
value together from these, with the containers that are still open on a stack. The two ways to write
a value are read alike (`ofText?_indented`, `ofText?_compact`): as the value itself, but for numbers
with a point, which are read as what their digits say.
-/
namespace StyleScore.Json

/-! ### The parts of a text -/

/-- What JSON text is made of. -/
inductive Mark where
  | openArray | closeArray | openObject | closeObject | comma | colon
  | text (t : Text)
  | word (w : Text)
  deriving DecidableEq, Repr

def Mark.ofChar? (c : Char) : Option Mark :=
  if c = '[' then some openArray
  else if c = ']' then some closeArray
  else if c = '\x7b' then some openObject
  else if c = '\x7d' then some closeObject
  else if c = ',' then some comma
  else if c = ':' then some colon
  else none

/-- The characters between marks that count for nothing. -/
def isGap (c : Char) : Bool := c = ' ' || c = '\n' || c = '\r' || c = '\t'

/-- The characters of numbers and of the words for other values. -/
def isWordChar (c : Char) : Bool := c.isAlphanum || c = '+' || c = '-' || c = '.'

theorem length_takeQuoted {text quote rest : Text} (taken : takeQuoted text = some (quote, rest)) :
    rest.length < text.length := by
  fun_induction takeQuoted text generalizing quote with
  | case1 text begins =>
    cases taken
    cases text with
    | nil => cases begins
    | cons c rest => simp
  | case2 text _ _ => cases taken
  | case3 text _ c more first ih =>
    obtain ⟨⟨inner, last⟩, second, same⟩ := Option.map_eq_some_iff.1 taken
    cases same
    have := length_takeChar first
    have := ih second
    omega

/-- The parts of a text in their order. -/
def marks (text : Text) : Option (List Mark) :=
  match text with
  | [] => some []
  | c :: rest =>
    if isGap c then marks rest
    else if isWordChar c then
      (marks (rest.dropWhile isWordChar)).map (.word (c :: rest.takeWhile isWordChar) :: ·)
    else if c = '"' then
      match _taken : takeQuoted rest with
      | none => none
      | some (quote, rest) => (marks rest).map (.text quote :: ·)
    else match Mark.ofChar? c with
      | none => none
      | some mark => (marks rest).map (mark :: ·)
termination_by text.length
decreasing_by
  · simp
  · have := (List.dropWhile_sublist isWordChar (l := rest)).length_le
    simp only [List.length_cons]
    omega
  · have := length_takeQuoted _taken
    simp only [List.length_cons]
    omega
  · simp

/-- No word goes on in the text. -/
def Ends (text : Text) : Prop := ∀ c ∈ text.head?, isWordChar c = false

/-- A text has these parts, whatever follows that does not go on with its last word. -/
def Spells (text : Text) (parts : List Mark) : Prop :=
  ∀ rest, Ends rest → marks (text ++ rest) = (marks rest).map (parts ++ ·)

/-- A text has these parts, whatever follows. -/
def Closes (text : Text) (parts : List Mark) : Prop :=
  ∀ rest, marks (text ++ rest) = (marks rest).map (parts ++ ·)

section Spelling

variable {text more word : Text} {parts others : List Mark} {c : Char}

theorem Closes.spells (closes : Closes text parts) : Spells text parts := fun rest _ => closes rest

theorem map_append_map (parts others : List Mark) (found : Option (List Mark)) :
    (found.map (others ++ ·)).map (parts ++ ·) = found.map ((parts ++ others) ++ ·) := by
  cases found with
  | none => rfl
  | some later => exact congrArg some (List.append_assoc parts others later).symm

theorem Closes.append (closes : Closes text parts) (spells : Spells more others) :
    Spells (text ++ more) (parts ++ others) := by
  intro rest ends
  rw [List.append_assoc, closes, spells rest ends, map_append_map]

theorem Closes.append_closes (closes : Closes text parts) (closesToo : Closes more others) :
    Closes (text ++ more) (parts ++ others) := by
  intro rest
  rw [List.append_assoc, closes, closesToo, map_append_map]

theorem Spells.append (spells : Spells text parts) (spellsToo : Spells more others)
    (apart : Ends more) :
    Spells (text ++ more) (parts ++ others) := by
  intro rest ends
  have after : Ends (more ++ rest) := by
    cases more with
    | nil => exact ends
    | cons c more => exact apart
  rw [List.append_assoc, spells _ after, spellsToo rest ends, map_append_map]

theorem closes_nil : Closes [] [] := by
  intro rest
  cases found : marks rest with
  | none => simpa using found
  | some later => simpa using found

theorem closes_gap {gap : Text} (blank : ∀ c ∈ gap, isGap c = true) : Closes gap [] := by
  induction gap with
  | nil => exact closes_nil
  | cons c gap ih =>
    obtain ⟨first, later⟩ := List.forall_mem_cons.1 blank
    intro rest
    rw [List.cons_append, marks, if_pos first]
    exact ih later rest

theorem closes_newLine (level : Nat) : Closes (newLine level) [] := by
  apply closes_gap
  intro c member
  rcases List.mem_cons.1 member with rfl | space
  · rfl
  · rw [List.eq_of_mem_replicate space]
    rfl

/-- A mark is neither a gap nor part of a word. -/
theorem of_ofChar? {mark : Mark} (found : Mark.ofChar? c = some mark) :
    isGap c = false ∧ isWordChar c = false ∧ c ≠ '"' := by
  have among : c = '[' ∨ c = ']' ∨ c = '\x7b' ∨ c = '\x7d' ∨ c = ',' ∨ c = ':' := by
    apply Classical.byContradiction
    intro other
    simp only [not_or] at other
    simp [Mark.ofChar?, other] at found
  rcases among with rfl | rfl | rfl | rfl | rfl | rfl <;> decide

theorem closes_mark {mark : Mark} (found : Mark.ofChar? c = some mark) : Closes [c] [mark] := by
  obtain ⟨gap, wordless, quote⟩ := of_ofChar? found
  intro rest
  rw [List.singleton_append, marks, gap, wordless, if_neg Bool.false_ne_true,
    if_neg Bool.false_ne_true, if_neg quote, found]
  rfl

theorem closes_quoted (t : Text) : Closes (quoted t) [.text t] := by
  intro rest
  have whole : quoted t ++ rest = '"' :: (t.flatMap escapeChar ++ '"' :: rest) := by simp [quoted]
  rw [whole, marks, if_neg (by decide), if_neg (by decide), if_pos rfl]
  split
  · next nothing => cases nothing.symm.trans (takeQuoted_escaped t rest)
  · next quote left taken =>
    cases taken.symm.trans (takeQuoted_escaped t rest)
    rfl

theorem isGap_of_isWordChar (wordy : isWordChar c = true) : isGap c = false := by
  cases blank : isGap c with
  | false => rfl
  | true =>
    have among : c = ' ' ∨ c = '\n' ∨ c = '\r' ∨ c = '\t' := by simpa [isGap, or_assoc] using blank
    rcases among with rfl | rfl | rfl | rfl <;> cases wordy

theorem spells_word (filled : word ≠ []) (all : ∀ c ∈ word, isWordChar c = true) :
    Spells word [.word word] := by
  intro rest ends
  cases word with
  | nil => exact absurd rfl filled
  | cons c word =>
    obtain ⟨first, later⟩ := List.forall_mem_cons.1 all
    have gap : isGap c = false := isGap_of_isWordChar first
    have taken : (word ++ rest).takeWhile isWordChar = word ∧
        (word ++ rest).dropWhile isWordChar = rest := by
      rw [List.takeWhile_append_of_pos later, List.dropWhile_append_of_pos later]
      cases rest with
      | nil => simp
      | cons d rest =>
        have differs : isWordChar d = false := ends d rfl
        simp [differs]
    rw [List.cons_append, marks, gap, if_neg Bool.false_ne_true, if_pos first, taken.1, taken.2]
    rfl

theorem isWordChar_of_isDigit (digit : c.isDigit = true) : isWordChar c = true := by
  simp [isWordChar, Char.isAlphanum, digit]

theorem isWordChar_of_mem_ofInt {n : Int} (member : c ∈ Text.ofInt n) : isWordChar c = true := by
  have digits (n : Nat) : ∀ c ∈ Text.ofNat n, isWordChar c = true :=
    fun c member => isWordChar_of_isDigit (Text.isDigit_of_mem_ofNat member)
  cases n with
  | ofNat n => exact digits n c member
  | negSucc n =>
    rcases List.mem_cons.1 member with rfl | later
    · rfl
    · exact digits (n + 1) c later

theorem spells_ofInt (n : Int) : Spells (Text.ofInt n) [.word (Text.ofInt n)] := by
  apply spells_word
  · cases n with
    | ofNat n => exact Text.ofNat_ne_nil n
    | negSucc n => simp [Text.ofInt]
  · exact fun _ => isWordChar_of_mem_ofInt

theorem IsFractional.isWordChar (shape : IsFractional text) :
    ∀ c ∈ text, Json.isWordChar c = true := by
  obtain ⟨whole, fraction, power, front, middle, back, -, rfl⟩ := shape
  intro c member
  rcases List.mem_append.1 member with inWhole | inRest
  · exact isWordChar_of_isDigit (front.isDigit inWhole)
  rcases List.mem_append.1 inRest with inFraction | inPower
  · rcases middle with rfl | ⟨decimals, -, digits, rfl⟩
    · cases inFraction
    · rcases List.mem_cons.1 inFraction with rfl | inDecimals
      · rfl
      · exact isWordChar_of_isDigit (digits c inDecimals)
  · rcases back with rfl | ⟨sign, exponent, signed, -, digits, rfl⟩
    · cases inPower
    · rcases List.mem_cons.1 inPower with rfl | inPower
      · rfl
      · rcases List.mem_cons.1 inPower with rfl | inExponent
        · rcases signed with rfl | rfl <;> rfl
        · exact isWordChar_of_isDigit (digits c inExponent)

theorem isWordChar_of_mem_number {x : Binary64} (member : c ∈ number x) : isWordChar c = true := by
  cases x with
  | nan => exact (by decide : ∀ c ∈ "NaN".toList, isWordChar c = true) c member
  | infinite negative =>
    have all : ∀ c ∈ "-Infinity".toList, isWordChar c = true := by decide
    cases negative with
    | false => exact all c (List.mem_cons_of_mem _ member)
    | true => exact all c member
  | finite negative mantissa exponent =>
    have shape : IsFractional
        (if mantissa = 0 then "0.0".toList else Binary64.positiveText mantissa exponent) :=
      isFractional_number
    rw [number, Binary64.textWith] at member
    cases negative with
    | false => exact shape.isWordChar c member
    | true =>
      rcases List.mem_cons.1 member with rfl | later
      · rfl
      · exact shape.isWordChar c later

theorem number_ne_nil (x : Binary64) : number x ≠ [] := by
  cases x with
  | nan => decide
  | infinite negative => cases negative <;> decide
  | finite negative mantissa exponent =>
    have shape : IsFractional
        (if mantissa = 0 then "0.0".toList else Binary64.positiveText mantissa exponent) :=
      isFractional_number
    obtain ⟨whole, fraction, power, -, -, -, longer, same⟩ := shape
    rw [number, Binary64.textWith, same]
    simp [longer]

theorem spells_number (x : Binary64) : Spells (number x) [.word (number x)] :=
  spells_word (number_ne_nil x) fun _ => isWordChar_of_mem_number

end Spelling

/-! ### The parts of a value -/

mutual

/-- The parts of the text of a value. -/
def spell : Json → List Mark
  | null => [.word "null".toList]
  | bool b => [.word (if b then "true".toList else "false".toList)]
  | int n => [.word (Text.ofInt n)]
  | float x => [.word (number x)]
  | text t => [.text t]
  | array [] => [.openArray, .closeArray]
  | array (item :: items) => .openArray :: (spell item ++ (spellItems items ++ [.closeArray]))
  | object [] => [.openObject, .closeObject]
  | object ((name, value) :: fields) =>
    .openObject :: .text name :: .colon :: (spell value ++ (spellFields fields ++ [.closeObject]))

def spellItems : List Json → List Mark
  | [] => []
  | item :: items => .comma :: (spell item ++ spellItems items)

def spellFields : List (Text × Json) → List Mark
  | [] => []
  | (name, value) :: fields => .comma :: .text name :: .colon :: (spell value ++ spellFields fields)

end

/-- The rest of a container: its parts, and no word goes on with it. -/
structure Continues (text : Text) (parts : List Mark) : Prop where
  spells : Spells text parts
  ends : ∀ more, Ends more → Ends (text ++ more)

section Containers

variable {before behind body more : Text} {parts others : List Mark}

theorem continues_nil : Continues [] [] := ⟨closes_nil.spells, fun _ ends => ends⟩

theorem ends_mark {c : Char} {mark : Mark} (found : Mark.ofChar? c = some mark) (more : Text) :
    Ends (c :: more) := by
  intro first same
  cases same
  exact (of_ofChar? found).2.1

theorem continues_comma (gap : Closes before []) (next : Spells body parts)
    (rest : Continues more others) :
    Continues (',' :: (before ++ (body ++ more))) (.comma :: (parts ++ others)) where
  spells := by
    have apart : Ends more := by
      have ends := rest.ends [] (by intro c impossible; cases impossible)
      rwa [List.append_nil] at ends
    have comma : Closes [','] [.comma] := closes_mark rfl
    exact comma.append (gap.append (next.append rest.spells apart))
  ends _ _ := ends_mark rfl _

theorem spells_field {colon : Text} (name : Text) (colons : Closes colon [.colon])
    (value : Spells body parts) :
    Spells (quoted name ++ (colon ++ body)) (.text name :: .colon :: parts) :=
  (closes_quoted name).append (colons.append value)

theorem spells_bracketed (opening closing : Char) {first last : Mark}
    (opens : Mark.ofChar? opening = some first) (closes : Mark.ofChar? closing = some last)
    (gap : Closes before []) (gapToo : Closes behind []) (head : Spells body parts)
    (tail : Continues more others) (apart : Ends (behind ++ [closing])) :
    Spells (opening :: (before ++ (body ++ (more ++ (behind ++ [closing])))))
      (first :: (parts ++ (others ++ [last]))) := by
  have finish : Spells (behind ++ [closing]) [last] :=
    (gapToo.append_closes (closes_mark closes)).spells
  have inner := tail.spells.append finish apart
  have items := head.append inner (tail.ends _ apart)
  exact (closes_mark opens).append (gap.append items)

theorem spells_empty {opening closing : Char} {first last : Mark}
    (opens : Mark.ofChar? opening = some first) (closes : Mark.ofChar? closing = some last) :
    Spells [opening, closing] [first, last] :=
  ((closes_mark opens).append_closes (closes_mark closes)).spells

end Containers

theorem spells_null : Spells "null".toList (spell null) := spells_word (by decide) (by decide)

theorem spells_bool (b : Bool) :
    Spells (if b then "true".toList else "false".toList) (spell (bool b)) := by
  cases b with
  | true => exact spells_word (by decide) (by decide)
  | false => exact spells_word (by decide) (by decide)

theorem ends_newLine (level : Nat) (more : Text) : Ends (newLine level ++ more) := by
  intro c first
  cases first
  rfl

theorem closes_spaced_colon : Closes ": ".toList [.colon] := by
  have colon : Closes [':'] [.colon] := closes_mark rfl
  have space : Closes [' '] [] := closes_gap (by decide)
  exact colon.append_closes space

mutual

/-- An indented value has the parts of the value. -/
theorem spells_indentedAt (level : Nat) :
    (json : Json) → Spells (indentedAt level json) (spell json)
  | null => spells_null
  | bool b => spells_bool b
  | int n => spells_ofInt n
  | float x => spells_number x
  | text t => (closes_quoted t).spells
  | array [] => spells_empty rfl rfl
  | array (item :: items) => by
    have whole := spells_bracketed '[' ']' rfl rfl (closes_newLine (level + 1))
      (closes_newLine level) (spells_indentedAt (level + 1) item)
        (continues_indentedItems (level + 1) items)
      (ends_newLine level _)
    simpa [indentedAt, spell] using whole
  | object [] => spells_empty rfl rfl
  | object ((name, value) :: fields) => by
    have field := spells_field name closes_spaced_colon (spells_indentedAt (level + 1) value)
    have whole := spells_bracketed '\x7b' '\x7d' rfl rfl (closes_newLine (level + 1))
      (closes_newLine level) field (continues_indentedFields (level + 1) fields)
        (ends_newLine level _)
    simpa [indentedAt, spell] using whole

theorem continues_indentedItems (level : Nat) :
    (items : List Json) → Continues (indentedItems level items) (spellItems items)
  | [] => continues_nil
  | item :: items => by
    have whole := continues_comma (closes_newLine level) (spells_indentedAt level item)
      (continues_indentedItems level items)
    simpa [indentedItems, spellItems] using whole

theorem continues_indentedFields (level : Nat) :
    (fields : List (Text × Json)) → Continues (indentedFields level fields) (spellFields fields)
  | [] => continues_nil
  | (name, value) :: fields => by
    have field := spells_field name closes_spaced_colon (spells_indentedAt level value)
    have whole :=
      continues_comma (closes_newLine level) field (continues_indentedFields level fields)
    simpa [indentedFields, spellFields] using whole

end

mutual

/-- A value without blanks has the parts of the value. -/
theorem spells_compact : (json : Json) → Spells (compact json) (spell json)
  | null => spells_null
  | bool b => spells_bool b
  | int n => spells_ofInt n
  | float x => spells_number x
  | text t => (closes_quoted t).spells
  | array [] => spells_empty rfl rfl
  | array (item :: items) => by
    have whole := spells_bracketed '[' ']' rfl rfl closes_nil closes_nil (spells_compact item)
      (continues_compactItems items) (ends_mark rfl [])
    simpa [compact, spell] using whole
  | object [] => spells_empty rfl rfl
  | object ((name, value) :: fields) => by
    have field := spells_field name (closes_mark (c := ':') rfl) (spells_compact value)
    have whole := spells_bracketed '\x7b' '\x7d' rfl rfl closes_nil closes_nil field
      (continues_compactFields fields) (ends_mark rfl [])
    simpa [compact, spell] using whole

theorem continues_compactItems :
    (items : List Json) → Continues (compactItems items) (spellItems items)
  | [] => continues_nil
  | item :: items => by
    have whole := continues_comma closes_nil (spells_compact item) (continues_compactItems items)
    simpa [compactItems, spellItems] using whole

theorem continues_compactFields :
    (fields : List (Text × Json)) → Continues (compactFields fields) (spellFields fields)
  | [] => continues_nil
  | (name, value) :: fields => by
    have field := spells_field name (closes_mark (c := ':') rfl) (spells_compact value)
    have whole := continues_comma closes_nil field (continues_compactFields fields)
    simpa [compactFields, spellFields] using whole

end

/-! ### From parts to a value -/

/-- A container that is still open, with what it has so far; a field waits for the value under its
name. -/
inductive Frame where
  | items (items : List Json)
  | fields (fields : List (Text × Json)) (name : Text)

/-- What has to come next: a value, the first item of an array or its end, the first name of an
object or its end, a name after a comma, a colon after a name; or what may follow a value. -/
inductive Stage where
  | value
  | firstItem
  | firstName
  | name (fields : List (Text × Json))
  | colon (fields : List (Text × Json)) (name : Text)
  | done (json : Json)

/-- A value begins. -/
def startValue (stack : List Frame) : Mark → Option (Stage × List Frame)
  | .openArray => some (.firstItem, stack)
  | .openObject => some (.firstName, stack)
  | .text t => some (.done (.text t), stack)
  | .word w => (word? w).map fun json => (.done json, stack)
  | _ => none

def step : Stage → List Frame → Mark → Option (Stage × List Frame)
  | .value, stack, mark => startValue stack mark
  | .firstItem, stack, .closeArray => some (.done (.array []), stack)
  | .firstItem, stack, mark => startValue (.items [] :: stack) mark
  | .firstName, stack, .closeObject => some (.done (.object []), stack)
  | .firstName, stack, .text name => some (.colon [] name, stack)
  | .name fields, stack, .text name => some (.colon fields name, stack)
  | .colon fields name, stack, .colon => some (.value, .fields fields name :: stack)
  | .done json, .items items :: stack, .comma => some (.value, .items (items ++ [json]) :: stack)
  | .done json, .items items :: stack, .closeArray => some (.done (.array (items ++ [json])), stack)
  | .done json, .fields fields name :: stack, .comma =>
    some (.name (fields ++ [(name, json)]), stack)
  | .done json, .fields fields name :: stack, .closeObject =>
    some (.done (.object (fields ++ [(name, json)])), stack)
  | _, _, _ => none

/-- The value of all parts: at their end one value is done and no container is open. -/
def run : List Mark → Stage → List Frame → Option Json
  | [], .done json, [] => some json
  | [], _, _ => none
  | mark :: marks, stage, stack =>
    (step stage stack mark).bind fun (stage, stack) => run marks stage stack

/-- The value of a JSON text. -/
def ofText? (text : Text) : Option Json := (marks text).bind fun parts => run parts .value []

mutual

/-- What a written value is read as: numbers with a point as what their digits say, all else as it
is. -/
def reread : Json → Json
  | array items => array (rereadItems items)
  | object fields => object (rereadFields fields)
  | float x => float x.reread
  | null => null
  | bool b => bool b
  | int n => int n
  | text t => text t

def rereadItems : List Json → List Json
  | [] => []
  | item :: items => reread item :: rereadItems items

def rereadFields : List (Text × Json) → List (Text × Json)
  | [] => []
  | (name, value) :: fields => (name, reread value) :: rereadFields fields

end

/-- In an array that was just opened a value begins like any other. -/
theorem run_firstItem (json : Json) (rest : List Mark) (stack : List Frame) :
    run (spell json ++ rest) .firstItem stack =
      run (spell json ++ rest) .value (.items [] :: stack) := by
  cases json with
  | array items => cases items <;> rfl
  | object fields => cases fields <;> rfl
  | _ => rfl

mutual

/-- The parts of a value are read as the value. -/
theorem run_spell (rest : List Mark) (stack : List Frame) :
    (json : Json) → run (spell json ++ rest) .value stack = run rest (.done json.reread) stack
  | null => rfl
  | bool true => rfl
  | bool false => rfl
  | int n => by
    simp [spell, run, step, startValue, word?_ofInt, reread]
  | float x => by
    simp [spell, run, step, startValue, word?_number, reread]
  | text t => rfl
  | array [] => rfl
  | array (item :: items) => by
    have inner := run_spellItems rest stack [] item.reread items
    rw [← run_spell (spellItems items ++ .closeArray :: rest) (.items [] :: stack) item,
      ← run_firstItem] at inner
    simpa [spell, run, step, startValue, reread, rereadItems] using inner
  | object [] => rfl
  | object ((name, value) :: fields) => by
    have inner := run_spellFields rest stack [] name value.reread fields
    rw [← run_spell (spellFields fields ++ .closeObject :: rest) (.fields [] name :: stack)
      value] at inner
    simpa [spell, run, step, startValue, reread, rereadFields] using inner

theorem run_spellItems (rest : List Mark) (stack : List Frame) (before : List Json) (json : Json) :
    (items : List Json) →
      run (spellItems items ++ .closeArray :: rest) (.done json) (.items before :: stack) =
        run rest (.done (.array (before ++ json :: rereadItems items))) stack
  | [] => rfl
  | item :: items => by
    have inner := run_spellItems rest stack (before ++ [json]) item.reread items
    rw [← run_spell (spellItems items ++ .closeArray :: rest) (.items (before ++ [json]) :: stack)
      item] at inner
    simpa [spellItems, run, step, rereadItems] using inner

theorem run_spellFields (rest : List Mark) (stack : List Frame) (before : List (Text × Json))
    (name : Text) (json : Json) :
    (fields : List (Text × Json)) →
      run (spellFields fields ++ .closeObject :: rest) (.done json) (.fields before name :: stack) =
        run rest (.done (.object (before ++ (name, json) :: rereadFields fields))) stack
  | [] => rfl
  | (next, value) :: fields => by
    have inner := run_spellFields rest stack (before ++ [(name, json)]) next value.reread fields
    rw [← run_spell (spellFields fields ++ .closeObject :: rest)
      (.fields (before ++ [(name, json)]) next :: stack) value] at inner
    simpa [spellFields, run, step, rereadFields] using inner

end

/-- A text with the parts of a value is read as the value, with blanks behind it or none. -/
theorem ofText?_of_spells {text gap : Text} {json : Json} (spells : Spells text (spell json))
    (blank : ∀ c ∈ gap, isGap c = true) : ofText? (text ++ gap) = some json.reread := by
  have ends : Ends gap := by
    intro c first
    have space := blank c (List.mem_of_mem_head? first)
    cases wordy : isWordChar c with
    | false => rfl
    | true => cases space.symm.trans (isGap_of_isWordChar wordy)
  have nothing : marks gap = some [] := by
    have parts := closes_gap blank []
    rw [List.append_nil] at parts
    rw [parts, marks]
    rfl
  have whole := run_spell [] [] json
  rw [List.append_nil] at whole
  rw [ofText?, spells gap ends, nothing, Option.map_some, List.append_nil, Option.bind_some, whole]
  rfl

/-- Indented text is read as the value. -/
theorem ofText?_indented (json : Json) : ofText? json.indented = some json.reread := by
  rw [← List.append_nil json.indented]
  exact ofText?_of_spells (spells_indentedAt 0 json) (by simp)

/-- Text without blanks is read as the value, with a line end behind it or none. -/
theorem ofText?_compact (json : Json) {gap : Text} (blank : ∀ c ∈ gap, isGap c = true) :
    ofText? (json.compact ++ gap) = some json.reread :=
  ofText?_of_spells (spells_compact json) blank

end StyleScore.Json
