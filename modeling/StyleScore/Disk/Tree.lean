import StyleScore.Fields
import StyleScore.Text.Basic

/-!
Files and folders as a tree, looked up and changed along a list of names.
Main statement: what is put at a place is found there, whatever the folders on the way held.
-/
namespace StyleScore

inductive FileTree where
  | file (bytes : List UInt8)
  | folder (members : List (Text × FileTree))
  deriving Repr

namespace FileTree

instance : Inhabited FileTree := ⟨folder []⟩

def get? : List Text → FileTree → Option FileTree
  | [], tree => some tree
  | name :: names, folder members => (Fields.get? name members).bind (get? names)
  | _ :: _, file _ => none

def isFolder : FileTree → Bool
  | folder _ => true
  | file _ => false

/-- A tree is put at a place, with the folders on the way; nothing goes below a file. -/
def put : List Text → FileTree → FileTree → FileTree
  | [], _, new => new
  | name :: names, folder members, new =>
    folder (Fields.put name (put names ((Fields.get? name members).getD (folder [])) new) members)
  | _ :: _, file bytes, _ => file bytes

mutual

/-- Every file with the names that lead to it. -/
def files : FileTree → List (List Text × List UInt8)
  | file bytes => [([], bytes)]
  | folder members => filesOf members

def filesOf : List (Text × FileTree) → List (List Text × List UInt8)
  | [] => []
  | (name, tree) :: members =>
    (files tree).map (fun (names, bytes) => (name :: names, bytes)) ++ filesOf members

end

/-- What is put at a place is found there, if every tree on the way is a folder. -/
theorem get?_put (names : List Text) (tree new : FileTree)
    (h : ∀ k < names.length, ∀ t, tree.get? (names.take k) = some t → t.isFolder = true) :
    get? names (put names tree new) = some new := by
  induction names generalizing tree with
  | nil => rfl
  | cons name names ih =>
    cases tree with
    | file bytes => simpa [isFolder] using h 0 (by simp) (file bytes) rfl
    | folder members =>
      simp only [put, get?, Fields.get?_put_self, Option.bind_some]
      apply ih
      intro k hk t ht
      cases hm : Fields.get? name members with
      | some below =>
        rw [hm] at ht
        exact h (k + 1) (by simpa using hk) t (by simpa [get?, hm] using ht)
      | none =>
        rw [hm] at ht
        cases k with
        | zero =>
          obtain rfl : folder [] = t := by simpa [get?] using ht
          rfl
        | succ k =>
          cases names with
          | nil => simp at hk
          | cons first rest => simp [get?, Fields.get?] at ht

end FileTree
end StyleScore
