import StyleScore.Disk.Basic
import StyleScore.Fields

/-!
Names for the reports of several style sheets, each made from the path of its style sheet as seen
from the working folder, and numbered where the name is in use.
-/
namespace StyleScore.Cli

/-- The parts that lead to a style sheet, joined by dots, without the ending of its name. -/
def baseLabel (workFolder : List Text) (path : Path) : Except Error Text := do
  let parts := Path.partsBetween workFolder (← path.resolveFrom workFolder).parts
  match parts.getLast? with
  | none => .error .namelessPath
  | some name =>
    let kept := (parts.dropLast ++ [Path.withoutSuffix name]).filter fun part =>
      part ≠ Path.up ∧ part ≠ Path.here
    let label := Text.joinWith ['.'] kept
    return if label = [] then "stylesheet".toList else label

/-- The label with a number behind it. -/
def numberedLabel (label : Text) (n : Nat) : Text := label ++ '-' :: Text.ofNat n

/-- The first number from `n` on whose label is free, among the next `tries`. -/
def freeNumber (used : List Text) (label : Text) (n : Nat) : (tries : Nat) → Nat
  | 0 => n
  | tries + 1 => if numberedLabel label n ∈ used then freeNumber used label (n + 1) tries else n

/-- The label itself, or with the least number from 2 on that makes it a new one; as many tries as
there are labels in use are enough. -/
def freshLabel (used : List Text) (label : Text) : Text :=
  if label ∈ used then numberedLabel label (freeNumber used label 2 used.length) else label

/-- Labels for the paths in order. -/
def labelEach (workFolder : List Text) (used : List Text) :
    List Path → Except Error (List (Path × Text))
  | [] => .ok []
  | path :: paths => do
    let label := freshLabel used (← baseLabel workFolder path)
    return (path, label) :: (← labelEach workFolder (used ++ [label]) paths)

/-- The label of each path; a repeated path keeps its place and takes its last label. -/
def labels (workFolder : List Text) (paths : List Path) : Except Error (List (Path × Text)) :=
  (labelEach workFolder [] paths).map Fields.collect

end StyleScore.Cli
