import StyleScore.Disk.Basic
import StyleScore.Text.Lowercase

/-!
The files below a folder that end in given ways, hidden ones left out, in the order of their parts.
Every folder below it can be listed.
-/
namespace StyleScore

/-- The name ends in one of the endings, whatever the case of its letters. -/
def Path.hasEnding (endings : List Text) (name : Text) : Bool :=
  endings.any fun ending => Text.endsWith (Text.lower name) (Text.lower ending)

namespace FileTree

mutual

/-- The files with a fitting name in a tree called `name`; a hidden one has none. -/
def listed (endings : List Text) (name : Text) : FileTree → List (List Text)
  | file _ =>
    if Path.isHiddenName name then [] else if Path.hasEnding endings name then [[name]] else []
  | folder members =>
    if Path.isHiddenName name then [] else (listedOf endings members).map (name :: ·)

def listedOf (endings : List Text) : List (Text × FileTree) → List (List Text)
  | [] => []
  | (name, tree) :: members => listed endings name tree ++ listedOf endings members

end

/-- The files below a folder, which may be hidden itself; there are none below a file. -/
def listedBelow (endings : List Text) : FileTree → List (List Text)
  | file _ => []
  | folder members => listedOf endings members

end FileTree

namespace Disk

def filesByEnding (disk : Disk) (base : Path) (endings : List Text) : Except Error (List Path) := do
  let base ← base.resolveFrom disk.workFolder
  let found := ((disk.tree.get? base.parts).map (FileTree.listedBelow endings)).getD []
  let sorted := (found.map (base.parts ++ ·)).mergeSort fun a b => !Path.partsLt b a
  return sorted.map fun parts => ⟨.single, parts⟩

def sheetEndings : List Text := [".css".toList]

/-- A folder stands for the style sheets below it, any other path for itself. -/
def expand (disk : Disk) : List Path → Except Error (List Path)
  | [] => .ok []
  | path :: paths => do
    let first ← if disk.isFolder path then disk.filesByEnding path sheetEndings else .ok [path]
    return first ++ (← disk.expand paths)

end Disk
end StyleScore
