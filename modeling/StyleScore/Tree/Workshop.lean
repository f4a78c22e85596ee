import StyleScore.Tree.Forest

/-!
A forest under construction. Nodes are known by name; a name may be dropped, and a node lives as
long as it is known or can be reached from a known one through children. Parent links to nodes that
no longer live are cleared.
-/
namespace StyleScore

/-- `names` holds the name of every node by its number, `known` the nodes whose name still
stands. -/
structure Workshop where
  forest : Forest
  names : Array Text
  known : List NodeId
  deriving Repr

/-- A change to the workshop. Names that stand for no known node are allowed where one is asked
for. -/
inductive Change where
  | create (name : Text) (kind : NodeKind) (rules : List Text) (parent : Option Text)
  | append (container rule : Text)
  | push (container rule : Text)
  | setParent (name : Text) (parent : Option Text)
  | drop (name : Text)
  deriving Repr

namespace Workshop

def empty : Workshop := ⟨⟨#[]⟩, #[], []⟩

def nameOf (workshop : Workshop) (id : NodeId) : Text := workshop.names[id]?.getD []

/-- The known node under a name. -/
def find? (workshop : Workshop) (name : Text) : Option NodeId :=
  workshop.known.find? fun id => workshop.nameOf id = name

/-- The known nodes under names, all of which have to be known. -/
def findAll (workshop : Workshop) : List Text → Except Error (List NodeId)
  | [] => .ok []
  | name :: names =>
    match workshop.find? name with
    | none => .error .missingKey
    | some id => (workshop.findAll names).map (id :: ·)

/-- The known node under a name; nothing can be asked of an unknown one. -/
def get (workshop : Workshop) (name : Option Text) : Except Error NodeId :=
  match name.bind workshop.find? with
  | some id => .ok id
  | none => .error .missingAttribute

def modify (workshop : Workshop) (id : NodeId) (change : Node → Node) : Workshop :=
  { workshop with forest := ⟨workshop.forest.nodes.modify id change⟩ }

/-- A rule becomes the last child of a node, which becomes its parent unless it is a sheet. -/
def adopt (workshop : Workshop) (container rule : NodeId) : Workshop :=
  let parent := if workshop.forest.kind? container = some .sheet then none else some container
  (workshop.modify rule fun node => { node with parent }).modify container fun node =>
    { node with children := node.children ++ [rule] }

/-- The nodes together with their children. -/
def spread (forest : Forest) (ids : List NodeId) : List NodeId :=
  Forest.firsts (ids ++ ids.flatMap forest.children)

/-- The nodes that can be reached from the given ones in at most `steps` steps. -/
def reached (forest : Forest) : (steps : Nat) → List NodeId → List NodeId
  | 0, ids => ids
  | steps + 1, ids => reached forest steps (spread forest ids)

/-- The nodes that live. -/
def living (workshop : Workshop) : List NodeId :=
  reached workshop.forest workshop.forest.size workshop.known

/-- Parent links to nodes that do not live are cleared. -/
def release (workshop : Workshop) : Workshop :=
  let living := workshop.living
  let clear (node : Node) : Node := { node with parent := node.parent.filter (· ∈ living) }
  { workshop with forest := ⟨workshop.forest.nodes.map clear⟩ }

/-- A node with the given rules as its children, one after another. -/
def create (workshop : Workshop) (name : Text) (kind : NodeKind) (rules : List Text)
    (parent : Option Text) : Except Error Workshop := do
  let rules ← workshop.findAll rules
  let id := workshop.forest.size
  let node : Node := ⟨kind, [], parent.bind workshop.find?⟩
  let grown : Workshop :=
    ⟨⟨workshop.forest.nodes.push node⟩, workshop.names.push name, workshop.known ++ [id]⟩
  return rules.foldl (fun w rule => w.adopt id rule) grown

/-- The container under one name and the node under another. -/
def containerAndRule (workshop : Workshop) (container rule : Text) :
    Except Error (NodeId × NodeId) := do
  let container ← workshop.get container
  if (workshop.forest.children? container).isNone then .error .missingAttribute
  else match workshop.find? rule with
    | none => .error .missingKey
    | some rule => return (container, rule)

def apply (workshop : Workshop) : Change → Except Error Workshop
  | .create name kind rules parent => workshop.create name kind rules parent
  | .append container rule => do
    let (container, rule) ← workshop.containerAndRule container rule
    return workshop.adopt container rule
  | .push container rule => do
    let (container, rule) ← workshop.containerAndRule container rule
    return workshop.modify container fun node => { node with children := node.children ++ [rule] }
  | .setParent name parent => do
    let id ← workshop.get name
    return workshop.modify id fun node => { node with parent := parent.bind workshop.find? }
  | .drop name =>
    match workshop.find? name with
    | none => .error .missingKey
    | some id => .ok { workshop with known := workshop.known.filter (· ≠ id) }.release

end Workshop
end StyleScore
