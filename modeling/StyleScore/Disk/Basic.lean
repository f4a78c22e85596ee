import StyleScore.Disk.Path
import StyleScore.Disk.Tree
import StyleScore.Error

/-!
A disk: a tree of files and folders with a working folder. Reading, writing and making folders
follow a path part by part, so that a double dot leads out of a folder that is there and out of no
other. Names are texts, there are no links, and every file and folder that is there may be read,
listed and written.
-/
namespace StyleScore

/-- The absolute path without double dots; no path with a null character has one. -/
def Path.resolveFrom (base : List Text) (path : Path) : Except Error Path :=
  if path.hasNull then .error .embeddedNull else .ok (path.resolved base)

structure Disk where
  tree : FileTree
  workFolder : List Text
  deriving Repr

namespace Disk

/-- The folder that a list of parts leads to from the folder `place`. -/
def enter (tree : FileTree) : (place parts : List Text) → Except FileCause (List Text)
  | place, [] => .ok place
  | place, part :: parts =>
    if part = Path.up then enter tree place.dropLast parts
    else match tree.get? (place ++ [part]) with
      | none => .error .noSuchFile
      | some (.file _) => .error .notDirectory
      | some (.folder _) => enter tree (place ++ [part]) parts

/-- The place that a path names: all parts but the last are folders that are there. -/
def locate (disk : Disk) (path : Path) : Except FileCause (List Text) :=
  let start := if path.root = .relative then disk.workFolder else []
  match path.parts.getLast? with
  | none => .ok start
  | some last => (enter disk.tree start path.parts.dropLast).map (Path.step · last)

/-- The place of a path, with the errors named after the path. -/
def place (disk : Disk) (path : Path) : Except Error (List Text) :=
  if path.hasNull then .error .embeddedNull
  else (disk.locate path).mapError (Error.file · path.text)

def at? (disk : Disk) (path : Path) : Except Error (Option FileTree) :=
  (disk.place path).map fun place => disk.tree.get? place

def isFolder (disk : Disk) (path : Path) : Bool :=
  match disk.at? path with
  | .ok (some tree) => tree.isFolder
  | _ => false

def read (disk : Disk) (path : Path) : Except Error (List UInt8) := do
  match ← disk.at? path with
  | none => .error (.file .noSuchFile path.text)
  | some (.folder _) => .error (.file .isDirectory path.text)
  | some (.file bytes) => .ok bytes

/-- The text of a file, every line end written as one line feed. A second attempt at bytes that are
no UTF-8 is made in the encoding of the system. That is UTF-8 here too, so it fails as the first
did, and only one is modelled. -/
def readText (disk : Disk) (path : Path) : Except Error Text := do
  match Text.Utf8.decode (← disk.read path) with
  | .ok text => .ok (Text.plainLineEnds text)
  | .error fault => .error (.badText fault)

/-- What the file held becomes `change` of it; a new file starts empty. -/
def update (disk : Disk) (path : Path) (change : List UInt8 → List UInt8) : Except Error Disk := do
  let place ← disk.place path
  match disk.tree.get? place with
  | some (.folder _) => .error (.file .isDirectory path.text)
  | some (.file bytes) => .ok { disk with tree := disk.tree.put place (.file (change bytes)) }
  | none => .ok { disk with tree := disk.tree.put place (.file (change [])) }

def makeFolder (disk : Disk) (path : Path) : Except Error Disk := do
  let place ← disk.place path
  match disk.tree.get? place with
  | some _ => .error (.file .fileExists path.text)
  | none => .ok { disk with tree := disk.tree.put place (.folder []) }

/-- Makes a folder unless it is there. -/
def ensureFolder (disk : Disk) (path : Path) : Except Error Unit × Disk :=
  match disk.makeFolder path with
  | .ok disk => (.ok (), disk)
  | .error (.file cause name) =>
    (if disk.isFolder path then .ok () else .error (.file cause name), disk)
  | .error e => (.error e, disk)

/-- Makes a folder, the missing ones above it first, at most `above` of them. Those made before an
error stay. -/
def ensureFoldersWithin (disk : Disk) (path : Path) : (above : Nat) → Except Error Unit × Disk
  | 0 => disk.ensureFolder path
  | above + 1 =>
    match disk.makeFolder path with
    | .error (.file .noSuchFile _) =>
      match disk.ensureFoldersWithin path.parent above with
      | (.ok (), disk) => disk.ensureFolder path
      | failed => failed
    | _ => disk.ensureFolder path

def ensureFolders (disk : Disk) (path : Path) : Except Error Unit × Disk :=
  disk.ensureFoldersWithin path path.parts.length

/-- A text is written to a file in place of what it held. -/
def writeText (disk : Disk) (path : Path) (text : Text) : Except Error Disk :=
  disk.update path fun _ => Text.Utf8.encode text

/-- A text is written to a file, with the folders that lead to it. -/
def save (disk : Disk) (path : Path) (text : Text) : Except Error Unit × Disk :=
  match disk.ensureFolders path.parent with
  | (.ok (), disk) =>
    match disk.writeText path text with
    | .ok disk => (.ok (), disk)
    | .error e => (.error e, disk)
  | failed => failed

def appendText (disk : Disk) (path : Path) (text : Text) : Except Error Disk :=
  disk.update path fun bytes => bytes ++ Text.Utf8.encode text

end Disk
end StyleScore
