import StyleScore.RunLog
import StyleScore.Value.Json

/-!
A writer of reports: names that do not end in the name of the default output are beginnings of
names.
-/
namespace StyleScore

structure Writer where
  defaultName : Text
  /-- Where errors in writing are noted too. -/
  log : Option RunLog
  deriving Repr

namespace Writer

def standardName : Text := "complexity.json".toList

def create (name : Option Text) (log : Option RunLog) : Writer :=
  ⟨((name.filter (· ≠ [])).getD standardName), log⟩

/-- Where data goes that is to be written under a name. -/
def outputPath (writer : Writer) (name : Option Text) : Path :=
  match name.filter (· ≠ []) with
  | none => Path.ofText writer.defaultName
  | some name =>
    if Text.endsWith name writer.defaultName then Path.ofText name
    else Path.ofText (name ++ '.' :: writer.defaultName)

/-- Writes a text; what the disk refuses is noted in the log and in the file of the log. -/
def save (writer : Writer) (path : Path) (text : Text) : Action Unit := do
  match ← (Action.change fun disk => disk.save path text).attempt with
  | .ok () => return ()
  | .error (.file cause name) =>
    let e := Error.file cause name
    Action.record .error .writer ("Error writing ".toList ++ path.text ++ ": ".toList ++
      e.message?.getD [])
    match writer.log with
    | some log => log.writeError e
    | none => pure ()
    throw e
  | .error e => throw e

def saveText (writer : Writer) (path : Path) (text : Text) : Action Path := do
  writer.save path text
  Action.record .info .writer ("Wrote ".toList ++ path.text)
  return path

/-- Writes a value that has to be a text: an empty one, or one without a name, is no output, and
for a value that is no text the file is made and stays empty. -/
def writeAs (writer : Writer) (data : Value) (name : Option Text) : Action Path := do
  match name.filter (· ≠ []) with
  | none => throw .noOutput
  | some name =>
    if !data.isTruthy then throw .noOutput
    else match data with
      | .text text => writer.saveText (Path.ofText name) text
      | _ =>
        writer.save (Path.ofText name) []
        throw .wrongType

/-- Writes a value as indented data. -/
def writeData (writer : Writer) (data : Value) (name : Option Text) : Action Path := do
  let text ← Action.ofExcept data.plain.jsonText
  writer.saveText (writer.outputPath name) text

end Writer
end StyleScore
