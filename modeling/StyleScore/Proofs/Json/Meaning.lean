import StyleScore.Proofs.Json.Reading

/-!
What a JSON text means to those who read it. The fields of an object have no order, and of two with
one name the last counts, so that a value with its fields sorted means the same (`meaning_sorted`).
A report means the same in the two forms in which it is written (`decode?_indented`,
`decode?_sorted`).
-/
namespace StyleScore

theorem Text.lt_irrefl (text : Text) : Text.lt text text = false := by
  induction text with
  | nil => rfl
  | cons c text ih => simp [Text.lt, ih]

namespace Json

/-- A value as its reader has it: an object gives each name its value. -/
inductive Meaning where
  | null
  | bool (b : Bool)
  | int (n : Int)
  | float (x : Binary64)
  | text (t : Text)
  | array (items : List Meaning)
  | object (field? : Text → Option Meaning)

mutual

def meaning : Json → Meaning
  | null => .null
  | bool b => .bool b
  | int n => .int n
  | float x => .float x
  | text t => .text t
  | array items => .array (meaningItems items)
  | object fields => .object (meaningFields fields)

def meaningItems : List Json → List Meaning
  | [] => []
  | item :: items => meaning item :: meaningItems items

/-- The last field with a name counts. -/
def meaningFields : List (Text × Json) → Text → Option Meaning
  | [], _ => none
  | (name, value) :: fields, wanted =>
    (meaningFields fields wanted).or (if name = wanted then some (meaning value) else none)

end

/-- What a JSON text is decoded to. -/
def decode? (text : Text) : Option Meaning := (ofText? text).map meaning

/-- A field only moves past fields with other names. -/
theorem meaningFields_insertField (field : Text × Json) (fields : List (Text × Json)) :
    meaningFields (insertField field fields) = meaningFields (field :: fields) := by
  induction fields with
  | nil => rfl
  | cons other fields ih =>
    rw [insertField]
    split
    · next before =>
      have differs : other.1 ≠ field.1 := by
        intro same
        rw [same, Text.lt_irrefl] at before
        cases before
      funext wanted
      simp only [meaningFields, ih]
      by_cases own : field.1 = wanted
      · have absent : other.1 ≠ wanted := fun same => differs (same.trans own.symm)
        simp [absent]
      · simp [own]
    · rfl

mutual

theorem meaning_sorted : (json : Json) → meaning json.sorted = meaning json
  | null => rfl
  | bool _ => rfl
  | int _ => rfl
  | float _ => rfl
  | text _ => rfl
  | array items => by rw [sorted, meaning, meaning, meaningItems_sortedItems]
  | object fields => by rw [sorted, meaning, meaning, meaningFields_sortedFields]

theorem meaningItems_sortedItems :
    (items : List Json) → meaningItems (sortedItems items) = meaningItems items
  | [] => rfl
  | item :: items => by
    rw [sortedItems, meaningItems, meaningItems, meaning_sorted item,
      meaningItems_sortedItems items]

theorem meaningFields_sortedFields :
    (fields : List (Text × Json)) → meaningFields (sortedFields fields) = meaningFields fields
  | [] => rfl
  | (name, value) :: fields => by
    rw [sortedFields, meaningFields_insertField]
    funext wanted
    rw [meaningFields, meaningFields, meaning_sorted value, meaningFields_sortedFields fields]

end

theorem rereadFields_insertField (name : Text) (value : Json) (fields : List (Text × Json)) :
    rereadFields (insertField (name, value) fields) =
      insertField (name, value.reread) (rereadFields fields) := by
  induction fields with
  | nil => rfl
  | cons other fields ih =>
    obtain ⟨otherName, otherValue⟩ := other
    simp only [insertField, rereadFields]
    split
    · rw [rereadFields, ih]
    · rfl

mutual

/-- Sorting fields and reading numbers again do not meet. -/
theorem reread_sorted : (json : Json) → json.sorted.reread = json.reread.sorted
  | null => rfl
  | bool _ => rfl
  | int _ => rfl
  | float _ => rfl
  | text _ => rfl
  | array items => by rw [sorted, reread, reread, sorted, rereadItems_sortedItems]
  | object fields => by rw [sorted, reread, reread, sorted, rereadFields_sortedFields]

theorem rereadItems_sortedItems :
    (items : List Json) → rereadItems (sortedItems items) = sortedItems (rereadItems items)
  | [] => rfl
  | item :: items => by
    rw [sortedItems, rereadItems, rereadItems, sortedItems, reread_sorted item,
      rereadItems_sortedItems items]

theorem rereadFields_sortedFields :
    (fields : List (Text × Json)) →
      rereadFields (sortedFields fields) = sortedFields (rereadFields fields)
  | [] => rfl
  | (name, value) :: fields => by
    rw [sortedFields, rereadFields_insertField, rereadFields, sortedFields, reread_sorted value,
      rereadFields_sortedFields fields]

end

theorem decode?_indented (json : Json) : decode? json.indented = some json.reread.meaning := by
  rw [decode?, ofText?_indented]
  rfl

/-- A value with its fields sorted, on one line, means what the value means. -/
theorem decode?_sorted (json : Json) :
    decode? (json.sorted.compact ++ ['\n']) = some json.reread.meaning := by
  rw [decode?, ofText?_compact json.sorted (by decide), reread_sorted, Option.map_some,
    meaning_sorted]

end Json
end StyleScore
