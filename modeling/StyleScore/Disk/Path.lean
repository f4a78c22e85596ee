import StyleScore.Text.Basic

/-!
Paths by their parts. Reading a path drops empty parts and single dots, so that two texts name the
same path exactly when the parts and the slashes in front agree; a double dot stays, and goes only
when the path is made absolute.
-/
namespace StyleScore

namespace Path

/-- The slashes in front: two of them are kept apart from one, three or more count as one. -/
inductive Root where
  | relative | single | double
  deriving DecidableEq, Repr

end Path

structure Path where
  root : Path.Root
  parts : List Text
  deriving DecidableEq, Repr

namespace Path

def Root.ofText : Text → Root
  | '/' :: '/' :: '/' :: _ => single
  | '/' :: '/' :: _ => double
  | '/' :: _ => single
  | _ => relative

def Root.text : Root → Text
  | relative => []
  | single => ['/']
  | double => ['/', '/']

/-- The part that leads to the folder above. -/
def up : Text := ['.', '.']

/-- The part that stays in the folder. -/
def here : Text := ['.']

def ofText (text : Text) : Path :=
  ⟨Root.ofText text, (Text.splitAt '/' text).filter fun part => part ≠ [] ∧ part ≠ here⟩

def text (path : Path) : Text :=
  if path.root = .relative ∧ path.parts = [] then here
  else path.root.text ++ Text.joinWith ['/'] path.parts

/-- The last part; empty when there is none. -/
def name (path : Path) : Text := path.parts.getLast?.getD []

/-- The path without its last part; one without parts stays. -/
def parent (path : Path) : Path := { path with parts := path.parts.dropLast }

def child (path : Path) (name : Text) : Path := { path with parts := path.parts ++ [name] }

def hasNull (path : Path) : Bool := path.parts.any fun part => '\x00' ∈ part

/-- A name that starts with a dot is hidden. -/
def isHiddenName (name : Text) : Bool := Text.startsWith name ['.']

def isHidden (path : Path) : Bool := isHiddenName path.name

/-- One part further: a double dot takes the last part away, if there is one. -/
def step (parts : List Text) (part : Text) : List Text :=
  if part = up then parts.dropLast else parts ++ [part]

/-- The path as seen from the folder `base`, without double dots. -/
def absolute (base : List Text) (path : Path) : Path :=
  match path.root with
  | .relative => ⟨.single, path.parts.foldl step base⟩
  | root => ⟨root, path.parts.foldl step []⟩

/-- The absolute path with one slash in front. -/
def resolved (base : List Text) (path : Path) : Path := { absolute base path with root := .single }

/-- What is left of two lists of parts after their common beginning. -/
def withoutCommon : List Text → List Text → List Text × List Text
  | a :: s, b :: t => if a = b then withoutCommon s t else (a :: s, b :: t)
  | s, t => (s, t)

/-- The parts that lead from one folder to a place. -/
def partsBetween (base place : List Text) : List Text :=
  let (above, below) := withoutCommon base place
  List.replicate above.length up ++ below

/-- A name without what follows its last dot, unless that dot is its first or last character. -/
def withoutSuffix (name : Text) : Text :=
  match Text.splitLast? '.' name with
  | some (front, suffix) =>
    if front.length ≤ 1 ∨ suffix = [] then name else front.dropLast
  | none => name

/-- Parts compared one by one, a proper beginning first. -/
def partsLt : List Text → List Text → Bool
  | _, [] => false
  | [], _ :: _ => true
  | a :: s, b :: t => Text.lt a b || (a = b && partsLt s t)

end Path
end StyleScore
