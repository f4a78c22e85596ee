import StyleScore.Decimal.Binary64
import StyleScore.Disk.Basic
import StyleScore.Log

/-!
What a run acts on: the disk, the log and the clock. An action may fail, and what it did before the
failure stays done.
-/
namespace StyleScore

structure World where
  disk : Disk
  /-- The entries of the log, oldest first. -/
  journal : List Entry
  /-- What the clock will show, in seconds; the last reading repeats. -/
  clock : List Binary64
  /-- The date and the time to the microsecond. -/
  now : Text
  deriving Repr

abbrev Action := ExceptT Error (StateM World)

namespace Action

def record (level : Level) (source : Source) (text : Text) : Action Unit :=
  modify fun world => { world with journal := world.journal ++ [⟨level, source, text⟩] }

def recordAll (entries : List Entry) : Action Unit :=
  modify fun world => { world with journal := world.journal ++ entries }

def ofExcept {α : Type} : Except Error α → Action α
  | .ok a => return a
  | .error e => throw e

/-- Looks at the disk. -/
def inspect {α : Type} (look : Disk → Except Error α) : Action α := do
  ofExcept (look (← get).disk)

/-- Changes the disk, also when the change fails halfway. -/
def change (f : Disk → Except Error Unit × Disk) : Action Unit := do
  let world ← get
  let (result, disk) := f world.disk
  set { world with disk }
  ofExcept result

/-- What an attempt gives, its failure as a value. -/
def attempt {α : Type} (action : Action α) : Action (Except Error α) :=
  fun world => let (result, world) := action world; (.ok result, world)

/-- The reading of the clock; a clock without readings shows zero. -/
def seconds : Action Binary64 :=
  modifyGet fun world => match world.clock with
    | [] => (Binary64.zero false, world)
    | [last] => (last, world)
    | reading :: later => (reading, { world with clock := later })

end Action
end StyleScore
