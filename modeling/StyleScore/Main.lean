import Std.Time.Format
import StyleScore.Cli.Run

/-!
The command line: loads what a run may look at, runs it, prints the log and writes what has changed.
Everything that is decided is decided by the run.
-/
namespace StyleScore.Main

/-- How deep folders are looked into. -/
def depthLimit : Nat := 200

def placeText (place : List Text) : String := String.ofList ('/' :: Text.joinWith ['/'] place)

/-- The tree at a place. The bytes of a file are read only where `wanted` says so. -/
def loadTree (wanted : List Text → Bool) : (depth : Nat) → List Text → IO FileTree
  | 0, _ => return .folder []
  | depth + 1, place => do
    let found ← IO.FS.realPath (placeText place)
    if ← found.isDir then
      let members ← (← found.readDir).toList.mapM fun member => do
        let name := member.fileName.toList
        return (name, ← loadTree wanted depth (place ++ [name]))
      return .folder members
    else if wanted place then return .file (← IO.FS.readBinFile found).toList
    else return .file []

/-- Puts what stands at a place into a tree; a place that cannot be read stays empty. -/
def loadInto (wanted : List Text → Bool) (tree : FileTree) (place : List Text) : IO FileTree := do
  if (tree.get? place).isSome then return tree
  try
    return tree.put place (← loadTree wanted depthLimit place)
  catch _ => return tree

def isFolder (place : List Text) : IO Bool := do
  try
    let found ← IO.FS.realPath (placeText place)
    found.isDir
  catch _ => return false

/-- The folders above a place that are there, outermost first. -/
def loadAbove (tree : FileTree) (place : List Text) : IO FileTree :=
  ((List.range place.length).map place.take).foldlM (fun tree above => do
    if (tree.get? above).isNone && (← isFolder above) then return tree.put above (.folder [])
    else return tree) tree

/-- The disk as far as the options name it: the working folder, the paths, and where output goes.
Places nearer the root come first, so that each is read once. -/
def loadDisk (options : Cli.Options) : IO Disk := do
  let workFolder := (Path.ofText (← IO.currentDir).toString.toList).parts
  let placeOf (name : Text) := ((Path.ofText name).absolute workFolder).parts
  let sheets := options.paths.map placeOf
  let log := options.logFile.toList.map placeOf
  let outputs := (options.output.toList ++ options.html.toList).map placeOf
  let wanted (place : List Text) :=
  log.contains place || sheets.any fun sheet => sheet.isPrefixOf place
  let places := (workFolder :: log ++ sheets ++ outputs).mergeSort fun a b => a.length ≤ b.length
  let tree ← places.foldlM (loadInto wanted) (.folder [])
  let tree ← places.foldlM loadAbove tree
  return ⟨tree, workFolder⟩

/-- Writes the files that differ from those before. -/
def storeDisk (before after : Disk) : IO Unit :=
  after.tree.files.forM fun (place, bytes) => do
    let same := match before.tree.get? place with
      | some (.file old) => old == bytes
      | _ => false
    if !same then
      IO.FS.createDirAll (placeText place.dropLast)
      IO.FS.writeBinFile (placeText place) ⟨bytes.toArray⟩

def seconds : IO Binary64 := do
  return Binary64.nearest ((← IO.monoNanosNow : Nat) / 1000000000) false

def timeText : IO Text := do
  let now := (toString (← Std.Time.PlainDateTime.now)).toList
  return (now.map fun c => if c = 'T' then ' ' else c).take 26

def printJournal (journal : List Entry) : IO Unit :=
  journal.forM fun entry =>
    IO.eprintln (String.ofList (entry.level.name ++ ' ' :: entry.source.name ++ ": ".toList ++
      entry.text))

/-- Runs once to learn how long the work takes, and once more with both readings of the clock. -/
def runTimed (arguments : List Text) (disk : Disk) : IO (Except Error Cli.Ending × World) := do
  let now ← timeText
  let start ← seconds
  let (_, world) := Cli.run arguments ⟨disk, [], [start], now⟩
  let stop ← if world.journal.isEmpty then pure start else seconds
  return Cli.run arguments ⟨disk, [], [start, stop], now⟩

def usageLine : String :=
  "usage: css-weights [-h] [-o OUTPUT] [--html HTML] [--log-file LOG_FILE] [-v] paths [paths ...]"

end StyleScore.Main

open StyleScore in
def main (arguments : List String) : IO UInt32 := do
  let arguments := arguments.map String.toList
  let disk ← match Cli.Options.ofArguments RunLog.defaultName arguments with
    | .ok options => Main.loadDisk options
    | .error _ => pure ⟨.folder [], []⟩
  let (result, world) ← Main.runTimed arguments disk
  Main.printJournal world.journal
  Main.storeDisk disk world.disk
  match result with
  | .ok (.exit status) => return status.toUInt32
  | .ok (.refused 0 _) =>
    IO.println Main.usageLine
    return 0
  | .ok (.refused status line) =>
    IO.eprintln Main.usageLine
    IO.eprintln (String.ofList line)
    return status.toUInt32
  | .error e =>
    IO.eprintln (String.ofList (e.label ++ ": ".toList ++ e.message?.getD []))
    return 1
