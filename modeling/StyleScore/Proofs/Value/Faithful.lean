import Mathlib.Algebra.Group.Int.Defs
import StyleScore.Proofs.Json.Reading
import StyleScore.Proofs.Value.Refusal
import StyleScore.Proofs.World.Failure

/-!
What JSON text keeps of a value. A value has a text exactly when each of its parts can be written:
whole numbers up to the limit of digits, and nothing that JSON does not know. The text is ASCII
(`isAscii_indented`). A value without numbers with a point and without sets is read back as itself,
but for the types that JSON does not have (`ofJson_reread`). Without a text nothing is written, and
the error is that of the first part that cannot be.
-/
namespace StyleScore

/-! ### The characters of JSON text -/

/-- No character beyond ASCII stands in the text. -/
def Text.IsAscii (text : Text) : Prop := ∀ c ∈ text, c.toNat < 128

namespace Text

theorem IsAscii.append {text more : Text} (ascii : text.IsAscii) (asciiToo : more.IsAscii) :
    (text ++ more).IsAscii :=
  List.forall_mem_append.2 ⟨ascii, asciiToo⟩

theorem IsAscii.cons {c : Char} {text : Text} (small : c.toNat < 128) (ascii : text.IsAscii) :
    IsAscii (c :: text) :=
  List.forall_mem_cons.2 ⟨small, ascii⟩

theorem IsAscii.singleton {c : Char} (small : c.toNat < 128) : IsAscii [c] := .cons small nofun

theorem IsAscii.of_all {text : Text} (all : (text.all fun c => c.toNat < 128) = true) :
    text.IsAscii :=
  fun c member => of_decide_eq_true (List.all_eq_true.1 all c member)

theorem isAscii_hex (width n : Nat) : (hex width n).IsAscii := by
  induction width generalizing n with
  | zero => exact nofun
  | succ width ih =>
    have digits : ∀ d < 16, (Nat.digitChar d).toNat < 128 := by decide
    exact (ih (n / 16)).append (.singleton (digits (n % 16) (Nat.mod_lt _ (by decide))))

end Text

namespace Json
open Text

theorem isAscii_hexEscape (n : Nat) : (hexEscape n).IsAscii :=
  .append (.of_all (by decide)) (isAscii_hex 4 n)

theorem isAscii_escapeChar (c : Char) : (escapeChar c).IsAscii := by
  unfold escapeChar
  iterate 7 (split; · exact .of_all (by decide))
  split
  · next plain =>
    apply IsAscii.singleton
    have range : ' ' ≤ c ∧ c ≤ '~' := by simpa using plain
    have small : c.toNat ≤ '~'.toNat := range.2
    exact Nat.lt_of_le_of_lt small (by decide)
  · split
    · exact isAscii_hexEscape _
    · exact (isAscii_hexEscape _).append (isAscii_hexEscape _)

theorem isAscii_quoted (t : Text) : (quoted t).IsAscii := by
  refine .append (.cons (by decide) ?_) (.singleton (by decide))
  intro c member
  obtain ⟨d, -, inside⟩ := List.mem_flatMap.1 member
  exact isAscii_escapeChar d c inside

theorem isAscii_of_isWordChar {word : Text} (all : ∀ c ∈ word, isWordChar c = true) :
    word.IsAscii := by
  intro c member
  have wordy : ((c.isAlphanum = true ∨ c = '+') ∨ c = '-') ∨ c = '.' := by
    simpa [isWordChar] using all c member
  rcases wordy with ((letter | rfl) | rfl) | rfl
  · delta Char.isAlphanum Char.isAlpha Char.isUpper Char.isLower Char.isDigit at letter
    simp only [Bool.or_eq_true, Bool.and_eq_true, decide_eq_true_eq, ge_iff_le,
      UInt32.le_iff_toNat_le] at letter
    change ((65 ≤ c.toNat ∧ c.toNat ≤ 90) ∨ (97 ≤ c.toNat ∧ c.toNat ≤ 122)) ∨
      (48 ≤ c.toNat ∧ c.toNat ≤ 57) at letter
    omega
  all_goals decide

theorem isAscii_newLine (level : Nat) : (newLine level).IsAscii := by
  refine .cons (by decide) fun c member => ?_
  rw [List.eq_of_mem_replicate member]
  decide

/-- A name with a colon behind it, and a value. -/
theorem isAscii_field (name : Text) {value : Text} (ascii : value.IsAscii) :
    IsAscii (quoted name ++ (": ".toList ++ value)) :=
  (isAscii_quoted name).append (.cons (by decide) (.cons (by decide) ascii))

/-- The members of a container between its brackets, each on a line of its own. -/
theorem isAscii_bracketed (level : Nat) (opening closing : Char) {first later : Text}
    (small : opening.toNat < 128 ∧ closing.toNat < 128) (ascii : first.IsAscii)
    (asciiToo : later.IsAscii) :
    IsAscii (opening :: (newLine (level + 1) ++
      (first ++ (later ++ (newLine level ++ [closing]))))) := by
  have ending := (isAscii_newLine level).append (.singleton small.2)
  exact .cons small.1 ((isAscii_newLine (level + 1)).append (ascii.append (asciiToo.append ending)))

/-- One more member of a container. -/
theorem isAscii_next (level : Nat) {member later : Text} (ascii : member.IsAscii)
    (asciiToo : later.IsAscii) :
    IsAscii (',' :: (newLine level ++ (member ++ later))) :=
  .cons (by decide) ((isAscii_newLine level).append (ascii.append asciiToo))

mutual

theorem isAscii_indentedAt (level : Nat) : (json : Json) → (indentedAt level json).IsAscii
  | null => .of_all (by rw [indentedAt]; decide)
  | bool b => .of_all (by rw [indentedAt]; cases b <;> decide)
  | int _ => isAscii_of_isWordChar fun _ => isWordChar_of_mem_ofInt
  | float _ => isAscii_of_isWordChar fun _ => isWordChar_of_mem_number
  | text t => isAscii_quoted t
  | array [] => .cons (by decide) (.singleton (by decide))
  | array (item :: items) => by
    have whole := isAscii_bracketed level '[' ']' (by decide) (isAscii_indentedAt (level + 1) item)
      (isAscii_indentedItems (level + 1) items)
    simpa [indentedAt] using whole
  | object [] => .cons (by decide) (.singleton (by decide))
  | object ((name, value) :: fields) => by
    have field := isAscii_field name (isAscii_indentedAt (level + 1) value)
    have whole := isAscii_bracketed level '\x7b' '\x7d' (by decide) field
      (isAscii_indentedFields (level + 1) fields)
    simpa [indentedAt] using whole

theorem isAscii_indentedItems (level : Nat) :
    (items : List Json) → (indentedItems level items).IsAscii
  | [] => nofun
  | item :: items => by
    have whole :=
      isAscii_next level (isAscii_indentedAt level item) (isAscii_indentedItems level items)
    simpa [indentedItems] using whole

theorem isAscii_indentedFields (level : Nat) :
    (fields : List (Text × Json)) → (indentedFields level fields).IsAscii
  | [] => nofun
  | (name, value) :: fields => by
    have field := isAscii_field name (isAscii_indentedAt level value)
    have whole := isAscii_next level field (isAscii_indentedFields level fields)
    simpa [indentedFields] using whole

end

/-- JSON text is ASCII, whatever stands in the value. -/
theorem isAscii_indented (json : Json) : json.indented.IsAscii := isAscii_indentedAt 0 json

end Json

namespace Value

/-! ### Values read back -/

/-- What JSON text gives back exactly: neither numbers with a point nor sets, which have no
order. -/
def isExact : Value → Bool
  | null | bool _ | int _ | text _ | list _ | tuple _ | object _ | mapping _
  | token _ _ _ _ | weighted _ _ => true
  | float _ | set _ | frozenSet _ | bytes _ | style _ => false

mutual

/-- The value that JSON stands for by itself. -/
def ofJson : Json → Value
  | .null => null
  | .bool b => bool b
  | .int n => int n
  | .float x => float x
  | .text t => text t
  | .array items => list (ofJsonItems items)
  | .object fields => object (ofJsonFields fields)

def ofJsonItems : List Json → List Value
  | [] => []
  | item :: items => ofJson item :: ofJsonItems items

def ofJsonFields : List (Text × Json) → List (Text × Value)
  | [] => []
  | (name, value) :: fields => (name, ofJson value) :: ofJsonFields fields

end

/-- A field that a value other than null has. -/
def presentField (name : String) (value : Value) (shown : Value) : List (Text × Value) :=
  match value with
  | null => []
  | _ => [(name.toList, shown)]

mutual

/-- The value without the types that JSON does not have: mappings are objects, tuples are lists, and
tokens and weighted rules are objects with their fields. -/
def simplified : Value → Value
  | list items => list (simplifiedItems items)
  | tuple items => list (simplifiedItems items)
  | object fields => object (simplifiedFields fields)
  | mapping fields => object (simplifiedFields fields)
  | token kind value isConditional isRange =>
    object ([("type".toList, simplified kind), ("value".toList, simplified value)] ++
      presentField "isConditional" isConditional (simplified isConditional) ++
      presentField "isRange" isRange (simplified isRange))
  | weighted selectorText complexity =>
    object [("selectorText".toList, simplified selectorText),
      ("selectorComplexity".toList, simplified complexity)]
  | v => v

def simplifiedItems : List Value → List Value
  | [] => []
  | item :: items => simplified item :: simplifiedItems items

def simplifiedFields : List (Text × Value) → List (Text × Value)
  | [] => []
  | (name, value) :: fields => (name, simplified value) :: simplifiedFields fields

end

theorem ofJsonFields_append (fields more : List (Text × Json)) :
    ofJsonFields (Json.rereadFields (fields ++ more)) =
      ofJsonFields (Json.rereadFields fields) ++ ofJsonFields (Json.rereadFields more) := by
  induction fields with
  | nil => rfl
  | cons field fields ih =>
    rw [List.cons_append, Json.rereadFields, Json.rereadFields, ofJsonFields, ofJsonFields, ih,
      List.cons_append]

theorem ofJsonFields_optionalField (name : String) (value : Value) (form : Json) :
    ofJsonFields (Json.rereadFields (optionalField name value form)) =
      presentField name value (ofJson form.reread) := by
  cases value <;> simp [optionalField, presentField, Json.rereadFields, ofJsonFields]

/-- Every part of the value is one that JSON text gives back. -/
def Exact (v : Value) : Prop := ∀ part ∈ v.parts, part.isExact = true

theorem exact_token {kind value isConditional isRange : Value}
    (exact : Exact (token kind value isConditional isRange)) :
    kind.Exact ∧ value.Exact ∧ isConditional.Exact ∧ isRange.Exact := by
  simpa [Exact, parts, isExact, or_imp, forall_and] using exact

theorem exact_weighted {selectorText complexity : Value}
    (exact : Exact (weighted selectorText complexity)) :
    selectorText.Exact ∧ complexity.Exact := by
  simpa [Exact, parts, isExact, or_imp, forall_and] using exact

mutual

/-- The JSON form of an exact value is read back as the value without the types that JSON does not
have. -/
theorem ofJson_reread {json : Json} :
    (v : Value) → v.Exact → v.toJson = .ok json → ofJson json.reread = v.simplified
  | null, _, rfl => rfl
  | bool _, _, rfl => rfl
  | int n, _, success => by
    rw [toJson] at success
    split at success
    · cases success
    · cases success
      rfl
  | text _, _, rfl => rfl
  | float x, exact, _ => nomatch exact (float x) List.mem_cons_self
  | set items, exact, _ => nomatch exact (set items) List.mem_cons_self
  | frozenSet items, exact, _ => nomatch exact (frozenSet items) List.mem_cons_self
  | list items, exact, success => by
    obtain ⟨forms, read, rfl⟩ := map_eq_ok.1 success
    rw [Json.reread, ofJson, simplified,
      ofJsonItems_reread items (List.forall_mem_cons.1 exact).2 read]
  | tuple items, exact, success => by
    obtain ⟨forms, read, rfl⟩ := map_eq_ok.1 success
    rw [Json.reread, ofJson, simplified,
      ofJsonItems_reread items (List.forall_mem_cons.1 exact).2 read]
  | object fields, exact, success => by
    obtain ⟨forms, read, rfl⟩ := map_eq_ok.1 success
    rw [Json.reread, ofJson, simplified,
      ofJsonFields_reread fields (List.forall_mem_cons.1 exact).2 read]
  | mapping fields, exact, success => by
    obtain ⟨forms, read, rfl⟩ := map_eq_ok.1 success
    rw [Json.reread, ofJson, simplified,
      ofJsonFields_reread fields (List.forall_mem_cons.1 exact).2 read]
  | token kind value isConditional isRange, exact, success => by
    obtain ⟨kindExact, valueExact, conditionalExact, rangeExact⟩ := exact_token exact
    rw [toJson] at success
    obtain ⟨kindForm, kindRead, success⟩ := bind_eq_ok.1 success
    obtain ⟨valueForm, valueRead, success⟩ := bind_eq_ok.1 success
    obtain ⟨conditionalForm, conditionalRead, success⟩ := bind_eq_ok.1 success
    obtain ⟨rangeForm, rangeRead, whole⟩ := bind_eq_ok.1 success
    obtain rfl := Except.ok.inj whole
    rw [Json.reread, ofJson, simplified, ofJsonFields_append, ofJsonFields_append,
      ofJsonFields_optionalField, ofJsonFields_optionalField,
      ofJson_reread isConditional conditionalExact conditionalRead,
      ofJson_reread isRange rangeExact rangeRead]
    simp only [Json.rereadFields, ofJsonFields, ofJson_reread kind kindExact kindRead,
      ofJson_reread value valueExact valueRead]
  | weighted selectorText complexity, exact, success => by
    obtain ⟨textExact, complexityExact⟩ := exact_weighted exact
    rw [toJson] at success
    obtain ⟨textForm, textRead, success⟩ := bind_eq_ok.1 success
    obtain ⟨complexityForm, complexityRead, whole⟩ := bind_eq_ok.1 success
    obtain rfl := Except.ok.inj whole
    rw [Json.reread, ofJson, simplified]
    simp only [Json.rereadFields, ofJsonFields, ofJson_reread selectorText textExact textRead,
      ofJson_reread complexity complexityExact complexityRead]

theorem ofJsonItems_reread {forms : List Json} :
    (items : List Value) → (∀ part ∈ partsOfItems items, part.isExact = true) →
      itemsToJson items = .ok forms →
      ofJsonItems (Json.rereadItems forms) = simplifiedItems items
  | [], _, rfl => rfl
  | item :: items, exact, success => by
    obtain ⟨first, later⟩ := List.forall_mem_append.1 exact
    rw [itemsToJson] at success
    obtain ⟨form, formRead, success⟩ := bind_eq_ok.1 success
    obtain ⟨others, othersRead, whole⟩ := bind_eq_ok.1 success
    obtain rfl := Except.ok.inj whole
    rw [Json.rereadItems, ofJsonItems, simplifiedItems, ofJson_reread item first formRead,
      ofJsonItems_reread items later othersRead]

theorem ofJsonFields_reread {forms : List (Text × Json)} :
    (fields : List (Text × Value)) → (∀ part ∈ partsOfFields fields, part.isExact = true) →
      fieldsToJson fields = .ok forms →
        ofJsonFields (Json.rereadFields forms) = simplifiedFields fields
  | [], _, rfl => rfl
  | (name, value) :: fields, exact, success => by
    obtain ⟨first, later⟩ := List.forall_mem_append.1 exact
    rw [fieldsToJson] at success
    obtain ⟨form, formRead, success⟩ := bind_eq_ok.1 success
    obtain ⟨others, othersRead, whole⟩ := bind_eq_ok.1 success
    obtain rfl := Except.ok.inj whole
    rw [Json.rereadFields, ofJsonFields, simplifiedFields, ofJson_reread value first formRead,
      ofJsonFields_reread fields later othersRead]

end

theorem toJson_plain (v : Value) : v.plain.toJson = v.toJson := by
  cases v <;> rfl

/-- A value whose parts can all be written has an ASCII text. If the value is exact, the text is
read back as the value without the types that JSON does not have. A value with a part that cannot be
written has no text: the error is that of the first such part, and writing the value changes
nothing. -/
theorem jsonText_faithful (v : Value) :
    ((∀ part ∈ v.parts, part.IsWritable) → ∃ text, v.plain.jsonText = .ok text ∧ text.IsAscii ∧
      (v.Exact → (Json.ofText? text).map ofJson = some v.simplified)) ∧
    ((∃ part ∈ v.parts, ¬part.IsWritable) → ∃ before part after e,
      v.parts = before ++ part :: after ∧ (∀ earlier ∈ before, earlier.IsWritable) ∧
      ¬part.IsWritable ∧ v.plain.jsonText = .error e ∧
      (part.isForeign = true → e = .notSerialisable part.typeName ∧ e.label = "TypeError".toList) ∧
      (part.isForeign = false → e = .overlongInteger ∧ e.label = "ValueError".toList) ∧
      ∀ (writer : Writer) (name : Option Text) (world : World),
        writer.writeData v name world = (.error e, world)) := by
  constructor
  · intro writable
    obtain ⟨json, success⟩ := hasJson_iff.2 writable
    refine ⟨json.indented, ?_, Json.isAscii_indented json, fun exact => ?_⟩
    · rw [jsonText, toJson_plain, success]
      rfl
    · rw [Json.ofText?_indented, Option.map_some, ofJson_reread v exact success]
  · rintro ⟨other, member, unwritable⟩
    have formless : ¬v.HasJson := fun form => unwritable (hasJson_iff.1 form other member)
    obtain ⟨before, part, after, e, whole, fine, refused, failed⟩ := exists_first_refused formless
    have textless : v.plain.jsonText = .error e := by
      rw [jsonText, toJson_plain, failed]
      rfl
    have first : ¬part.IsWritable := by
      rw [← refusal?_eq_none_iff, refused]
      simp
    refine ⟨before, part, after, e, whole, fine, first, textless, ?_⟩
    rcases refusal?_cases refused with ⟨foreign, rfl⟩ | ⟨known, rfl⟩
    · exact ⟨fun _ => ⟨rfl, rfl⟩, fun known => Bool.noConfusion (foreign.symm.trans known),
        Writer.writeData_of_error textless⟩
    · exact ⟨fun foreign => Bool.noConfusion (known.symm.trans foreign), fun _ => ⟨rfl, rfl⟩,
        Writer.writeData_of_error textless⟩

/-- A mapping with a tuple and a token in it is read back as objects and a list, in their order;
bytes in a list of objects are found and named. -/
theorem jsonText_faithful_mixed :
    (∃ written, (mapping [("\u00e9".toList, tuple [int (-3), text "\n".toList]),
        ("a".toList, token (text "at".toList) null (bool true) null)]).plain.jsonText =
        .ok written ∧
      written.IsAscii ∧ (Json.ofText? written).map ofJson = some (object
        [("\u00e9".toList, list [int (-3), text "\n".toList]),
        ("a".toList, object [("type".toList, text "at".toList), ("value".toList, null),
          ("isConditional".toList, bool true)])])) ∧
    ∃ e, (list [null, object [("k".toList, bytes [1])]]).plain.jsonText = .error e ∧
      e.label = "TypeError".toList := by
  constructor
  · obtain ⟨written, success, ascii, back⟩ := (jsonText_faithful (mapping
      [("\u00e9".toList, tuple [int (-3), text "\n".toList]),
        ("a".toList, token (text "at".toList) null (bool true) null)])).1 (by
      have short : 3 < 10 ^ Text.digitLimit := by decide +kernel
      simp [parts, partsOfFields, partsOfItems, IsWritable, short])
    refine ⟨written, success, ascii, back ?_⟩
    simp [Exact, parts, partsOfFields, partsOfItems, isExact]
  · obtain ⟨before, part, after, e, whole, -, unwritable, failure, foreign, -⟩ :=
      (jsonText_faithful (list [null, object [("k".toList, bytes [1])]])).2
        ⟨bytes [1], by simp [parts, partsOfFields, partsOfItems], by simp [IsWritable]⟩
    have member : part ∈ (list [null, object [("k".toList, bytes [1])]]).parts := by
      rw [whole]
      exact List.mem_append_right before List.mem_cons_self
    have named : part = bytes [1] := by
      simp only [parts, partsOfFields, partsOfItems, List.append_nil, List.mem_cons,
        List.cons_append, List.nil_append, List.not_mem_nil, or_false] at member
      rcases member with rfl | rfl | rfl | rfl
      · exact absurd trivial unwritable
      · exact absurd trivial unwritable
      · exact absurd trivial unwritable
      · rfl
    subst named
    exact ⟨e, failure, (foreign rfl).2⟩

/-- A number with one digit too many has no text, and before bytes it is what the error is about.
What is not a number is written as a word. -/
theorem jsonText_overlong :
    (int (10 ^ Text.digitLimit)).plain.jsonText = .error .overlongInteger ∧
    (list [int (10 ^ Text.digitLimit), bytes [1]]).plain.jsonText = .error .overlongInteger ∧
    Error.overlongInteger.label = "ValueError".toList ∧
    (list [float .nan]).plain.jsonText = .ok "[\n  NaN\n]".toList := by
  have long : (int (10 ^ Text.digitLimit)).toJson = .error .overlongInteger := by
    rw [toJson, if_pos]
    rw [Text.isOverlong_iff, Int.natAbs_pow]
    exact Nat.pow_le_pow_left (by decide) _
  refine ⟨?_, ?_, rfl, eq_ok_of_toOption (by decide +kernel)⟩
  · rw [jsonText, toJson_plain, long]
    rfl
  · rw [jsonText, toJson_plain, toJson, itemsToJson, long]
    rfl

end Value
end StyleScore
