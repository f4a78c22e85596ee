/-!
Named fields in the order of their first appearance, each with its last value.
-/
namespace StyleScore.Fields

variable {κ α : Type} [DecidableEq κ]

/-- A field is put at the end, or its value takes the place of the one under the same name. -/
def put (name : κ) (value : α) : List (κ × α) → List (κ × α)
  | [] => [(name, value)]
  | (other, old) :: fields =>
    if other = name then (name, value) :: fields else (other, old) :: put name value fields

def collect (fields : List (κ × α)) : List (κ × α) :=
  fields.foldl (fun collected (name, value) => put name value collected) []

def get? (name : κ) : List (κ × α) → Option α
  | [] => none
  | (other, value) :: fields => if other = name then some value else get? name fields

theorem get?_put_self (name : κ) (value : α) (fields : List (κ × α)) :
    get? name (put name value fields) = some value := by
  induction fields with
  | nil => simp [put, get?]
  | cons field fields ih =>
    by_cases h : field.1 = name
    · simp [put, get?, h]
    · simp [put, get?, h, ih]

theorem get?_put_of_ne {name other : κ} (value : α) (fields : List (κ × α)) (h : other ≠ name) :
    get? other (put name value fields) = get? other fields := by
  induction fields with
  | nil => simp [put, get?, h.symm]
  | cons field fields ih =>
    by_cases hn : field.1 = name
    · simp [put, get?, hn, h.symm]
    · by_cases ho : field.1 = other
      · simp [put, get?, h, ho]
      · simp [put, get?, hn, ho, ih]

end StyleScore.Fields
