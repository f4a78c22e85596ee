import StyleScore.World

/-!
The log of a run: a file that dated lines are added to, a timer, and the last message shown. An
entry is its date, its level and its message. What is written below an entry about the place where
an error arose is no part of it and is left out.
-/
namespace StyleScore

structure RunLog where
  file : Path
  shown : Option Text
  /-- When the timer was started, in milliseconds. -/
  started : Option Binary64
  ended : Option Binary64
  deriving Repr

namespace RunLog

def defaultName : Text := "log.txt".toList

def create (name : Text) : Action RunLog :=
  let file := Path.ofText name
  if file.hasNull then throw .embeddedNull else return ⟨file, none, none, none⟩

def ruler : Text := List.replicate 29 '='

/-- A message between two rulers, the upper one with the time if there is one. -/
def banner (time : Option Text) (message : Text) : Text :=
  let top := match time with
    | some time => List.replicate 14 '=' ++ time ++ List.replicate 15 '='
    | none => ruler
  '\n' :: top ++ '\n' :: message ++ '\n' :: ruler

def startTimer (log : RunLog) : Action RunLog := do
  return { log with started := some (← Action.seconds).thousandfold, ended := none }

def endTimer (log : RunLog) : Action RunLog := do
  return { log with ended := some (← Action.seconds).thousandfold }

/-- Milliseconds between the start and the end of the timer. -/
def elapsed (log : RunLog) : Option Binary64 :=
  match log.started, log.ended with
  | some started, some ended => some (ended.sub started)
  | _, _ => none

def toConsole (log : RunLog) (message : Text) : Action RunLog := do
  Action.record .info .console message
  return { log with shown := some message }

/-- The time as it stands in front of a line: to the millisecond, after a comma. -/
def stamp (now : Text) : Text := now.take 19 ++ ',' :: (now.drop 20).take 3

/-- The line of an entry, which is all that is kept of it. -/
def line (now : Text) (level : Level) (text : Text) : Text :=
  stamp now ++ ' ' :: level.name ++ ' ' :: text ++ ['\n']

/-- Adds a line to the file, which is looked up from the working folder by its absolute path. -/
def write (log : RunLog) (level : Level) (text : Text) : Action Unit := do
  let now := (← get).now
  Action.change fun disk =>
    match disk.appendText (log.file.absolute disk.workFolder) (line now level text) with
    | .ok disk => (.ok (), disk)
    | .error e => (.error e, disk)

def writeInfo (log : RunLog) (message : Text) : Action Unit := log.write .info message

/-- An error stands in the file by its label and its message. -/
def writeLabelled (log : RunLog) (label message : Text) : Action Unit :=
  log.write .error (label ++ ": ".toList ++ message)

def writeError (log : RunLog) (e : Error) : Action Unit :=
  log.writeLabelled e.label (e.message?.getD [])

/-- The shape of a stamp: `0` stands for a digit. -/
def stampShape : Text := "0000-00-00 00:00:00,000 ".toList

/-- What follows the stamp of a dated line. -/
def afterStamp? : (shape line : Text) → Option Text
  | [], line => some line
  | _ :: _, [] => none
  | s :: shape, c :: line =>
    if (s = '0' ∧ c.isDigit) ∨ (s ≠ '0' ∧ c = s) then afterStamp? shape line else none

/-- The level and the text of a dated line. -/
def entry? (line : Text) : Option (Text × Text) :=
  (afterStamp? stampShape line).bind (Text.cutAt? [' '])

/-- The dated lines of a log file. -/
def entries (text : Text) : List (Text × Text) := (Text.splitAt '\n' text).filterMap entry?

end RunLog
end StyleScore
