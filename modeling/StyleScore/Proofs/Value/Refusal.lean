import Mathlib.Algebra.Group.Nat.Defs
import StyleScore.Value.Json

/-!
Which values have a JSON form. A value is refused for one of its parts: a whole number with too many
digits, or something that JSON does not know. Of several such parts the first one, in the order in
which they are written, gives the error (`meets_toJson`).
-/
namespace StyleScore

/-- The numbers that can be written are those below a power of ten. -/
theorem Text.isOverlong_iff (n : Int) : isOverlong n = true ↔ 10 ^ digitLimit ≤ n.natAbs := by
  have short : (ofNat n.natAbs).length ≤ digitLimit ↔ n.natAbs < 10 ^ digitLimit :=
    Nat.length_toDigits_le_iff (by decide) (by decide)
  rw [isOverlong, decide_eq_true_eq, ← Nat.not_le, short, Nat.not_lt]

namespace Value

mutual

/-- The value and everything in it, in the order in which it is written. Bytes and style rules are
not looked into. -/
def parts : Value → List Value
  | list items => list items :: partsOfItems items
  | tuple items => tuple items :: partsOfItems items
  | set items => set items :: partsOfItems items
  | frozenSet items => frozenSet items :: partsOfItems items
  | object fields => object fields :: partsOfFields fields
  | mapping fields => mapping fields :: partsOfFields fields
  | token kind value isConditional isRange =>
    token kind value isConditional isRange ::
      (parts kind ++ (parts value ++ (parts isConditional ++ parts isRange)))
  | weighted selectorText complexity =>
    weighted selectorText complexity :: (parts selectorText ++ parts complexity)
  | v => [v]

def partsOfItems : List Value → List Value
  | [] => []
  | item :: items => parts item ++ partsOfItems items

def partsOfFields : List (Text × Value) → List Value
  | [] => []
  | (_, value) :: fields => parts value ++ partsOfFields fields

end

/-- What JSON does not know and nothing stands for. -/
def isForeign : Value → Bool
  | bytes _ | style _ => true
  | _ => false

/-- What can be written by itself: nothing foreign, and no number with too many digits. -/
def IsWritable : Value → Prop
  | int n => n.natAbs < 10 ^ Text.digitLimit
  | bytes _ | style _ => False
  | _ => True

/-- Why a part by itself has no JSON form. -/
def refusal? : Value → Option Error
  | int n => if Text.isOverlong n then some .overlongInteger else none
  | bytes _ => some (.notSerialisable "bytes".toList)
  | style _ => some (.notSerialisable "StyleRule".toList)
  | _ => none

theorem refusal?_eq_none_iff {part : Value} : part.refusal? = none ↔ part.IsWritable := by
  cases part with
  | int n =>
    have short := not_congr (Text.isOverlong_iff n)
    rw [Nat.not_le] at short
    simp only [refusal?, IsWritable, ite_eq_right_iff, reduceCtorEq, imp_false, short]
  | _ => simp [refusal?, IsWritable]

/-- A part that is refused is foreign, or it is a number with too many digits. -/
theorem refusal?_cases {part : Value} {e : Error} (refused : part.refusal? = some e) :
    (part.isForeign = true ∧ e = .notSerialisable part.typeName) ∨
      (part.isForeign = false ∧ e = .overlongInteger) := by
  cases part with
  | bytes data => exact .inl ⟨rfl, (Option.some.inj refused).symm⟩
  | style selectorText => exact .inl ⟨rfl, (Option.some.inj refused).symm⟩
  | int n =>
    rw [refusal?] at refused
    split at refused
    · exact .inr ⟨rfl, (Option.some.inj refused).symm⟩
    · cases refused
  | _ => cases refused

/-! ### The first part that is refused -/

/-- The steps succeed if nothing is refused, and fail with the first refusal. -/
def Meets {α : Type} : Option Error → Except Error α → Prop
  | none, result => ∃ form, result = .ok form
  | some e, result => result = .error e

theorem Meets.ok {α : Type} (form : α) : Meets none (.ok form) := ⟨form, rfl⟩

theorem Meets.map {α β : Type} {found : Option Error} {result : Except Error α}
    (meets : Meets found result) (f : α → β) : Meets found (result.map f) := by
  cases found with
  | none =>
    obtain ⟨form, rfl⟩ := meets
    exact .ok (f form)
  | some e =>
    rw [show result = _ from meets]
    rfl

theorem Meets.bind {α β : Type} {found later : Option Error} {first : Except Error α}
    {next : α → Except Error β} (meets : Meets found first)
    (meetsToo : ∀ form, Meets later (next form)) :
    Meets (found.or later) (first >>= next) := by
  cases found with
  | none =>
    obtain ⟨form, rfl⟩ := meets
    exact meetsToo form
  | some e =>
    rw [show first = _ from meets]
    rfl

/-- The last step gives a form whatever came before it. -/
theorem Meets.bind_ok {α β : Type} {found : Option Error} {first : Except Error α} {last : α → β}
    (meets : Meets found first) : Meets found (first >>= fun form => .ok (last form)) := by
  rw [← Option.or_none (o := found)]
  exact meets.bind fun _ => .ok _

mutual

/-- A value has a JSON form unless a part of it is refused, and the first of these gives the
error. -/
theorem meets_toJson : (v : Value) → Meets (v.parts.findSome? refusal?) v.toJson
  | null => .ok _
  | bool _ => .ok _
  | float _ => .ok _
  | text _ => .ok _
  | int n => by
    simp only [parts, List.findSome?_singleton, refusal?, toJson]
    split
    · rfl
    · exact .ok _
  | list items => (meets_itemsToJson items).map _
  | tuple items => (meets_itemsToJson items).map _
  | set items => (meets_itemsToJson items).map _
  | frozenSet items => (meets_itemsToJson items).map _
  | object fields => (meets_fieldsToJson fields).map _
  | mapping fields => (meets_fieldsToJson fields).map _
  | bytes _ => rfl
  | style _ => rfl
  | token kind value isConditional isRange => by
    rw [parts, List.findSome?_cons_of_isNone (by rfl), List.findSome?_append, List.findSome?_append,
      List.findSome?_append, toJson]
    refine (meets_toJson kind).bind fun _ => (meets_toJson value).bind fun _ => ?_
    exact (meets_toJson isConditional).bind fun _ => (meets_toJson isRange).bind_ok
  | weighted selectorText complexity => by
    rw [parts, List.findSome?_cons_of_isNone (by rfl), List.findSome?_append, toJson]
    exact (meets_toJson selectorText).bind fun _ => (meets_toJson complexity).bind_ok

theorem meets_itemsToJson :
    (items : List Value) → Meets ((partsOfItems items).findSome? refusal?) (itemsToJson items)
  | [] => .ok _
  | item :: items => by
    rw [partsOfItems, List.findSome?_append, itemsToJson]
    exact (meets_toJson item).bind fun _ => (meets_itemsToJson items).bind_ok

theorem meets_fieldsToJson :
    (fields : List (Text × Value)) →
      Meets ((partsOfFields fields).findSome? refusal?) (fieldsToJson fields)
  | [] => .ok _
  | (_, value) :: fields => by
    rw [partsOfFields, List.findSome?_append, fieldsToJson]
    exact (meets_toJson value).bind fun _ => (meets_fieldsToJson fields).bind_ok

end

/-! ### Values with a JSON form -/

/-- The value has a JSON form. -/
def HasJson (value : Value) : Prop := ∃ form, value.toJson = .ok form

theorem hasJson_iff {v : Value} : v.HasJson ↔ ∀ part ∈ v.parts, part.IsWritable := by
  have meets := meets_toJson v
  simp only [← refusal?_eq_none_iff]
  rw [← List.findSome?_eq_none_iff]
  cases found : v.parts.findSome? refusal? with
  | none =>
    rw [found] at meets
    exact ⟨fun _ => rfl, fun _ => meets⟩
  | some e =>
    rw [found] at meets
    constructor
    · rintro ⟨form, success⟩
      cases success.symm.trans meets
    · intro impossible
      cases impossible

/-- A value without a JSON form has a first part that is refused, and the error is that of this
part. -/
theorem exists_first_refused {v : Value} (formless : ¬v.HasJson) :
    ∃ before part after e, v.parts = before ++ part :: after ∧
      (∀ earlier ∈ before, earlier.IsWritable) ∧ part.refusal? = some e ∧ v.toJson = .error e := by
  have meets := meets_toJson v
  cases found : v.parts.findSome? refusal? with
  | none =>
    rw [found] at meets
    exact absurd meets formless
  | some e =>
    rw [found] at meets
    obtain ⟨before, part, after, whole, refused, fine⟩ := List.findSome?_eq_some_iff.1 found
    simp only [refusal?_eq_none_iff] at fine
    exact ⟨before, part, after, e, whole, fine, refused, meets⟩

/-- A value without a foreign part is refused only for a number with too many digits. -/
theorem toJson_of_not_hasJson {v : Value} (known : ∀ part ∈ v.parts, part.isForeign = false)
    (formless : ¬v.HasJson) : v.toJson = .error .overlongInteger := by
  obtain ⟨before, part, after, e, whole, -, refused, failure⟩ := exists_first_refused formless
  rcases refusal?_cases refused with ⟨foreign, -⟩ | ⟨-, rfl⟩
  · have member : part ∈ v.parts := by
      rw [whole]
      exact List.mem_append_right before List.mem_cons_self
    cases (known part member).symm.trans foreign
  · exact failure

theorem mem_partsOfItems {part : Value} {items : List Value} :
    part ∈ partsOfItems items ↔ ∃ item ∈ items, part ∈ item.parts := by
  induction items with
  | nil => simp [partsOfItems]
  | cons item items ih => simp [partsOfItems, ih]

theorem mem_partsOfFields {part : Value} {fields : List (Text × Value)} :
    part ∈ partsOfFields fields ↔ ∃ field ∈ fields, part ∈ field.2.parts := by
  induction fields with
  | nil => simp [partsOfFields]
  | cons field fields ih =>
    obtain ⟨name, value⟩ := field
    simp [partsOfFields, ih]

/-- What holds of every list holds of all parts of one if it holds of the parts of its items. -/
theorem forall_parts_list {P : Value → Prop} (lists : ∀ items, P (list items))
    {items : List Value} :
    (∀ part ∈ (list items).parts, P part) ↔ ∀ item ∈ items, ∀ part ∈ item.parts, P part := by
  simp only [parts, List.mem_cons, mem_partsOfItems]
  constructor
  · intro all item member part inside
    exact all part (.inr ⟨item, member, inside⟩)
  · rintro all part (rfl | ⟨item, member, inside⟩)
    · exact lists items
    · exact all item member part inside

theorem forall_parts_object {P : Value → Prop} (objects : ∀ fields, P (object fields))
    {fields : List (Text × Value)} :
    (∀ part ∈ (object fields).parts, P part) ↔ ∀ field ∈ fields, ∀ part ∈ field.2.parts,
      P part := by
  simp only [parts, List.mem_cons, mem_partsOfFields]
  constructor
  · intro all field member part inside
    exact all part (.inr ⟨field, member, inside⟩)
  · rintro all part (rfl | ⟨field, member, inside⟩)
    · exact objects fields
    · exact all field member part inside

end Value
end StyleScore
