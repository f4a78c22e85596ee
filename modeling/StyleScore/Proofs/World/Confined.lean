import StyleScore.Proofs.Disk.Saving
import StyleScore.Proofs.World.Reading

/-!
Which files an action can change. Reading a style sheet and scoring it changes none, an entry in the
log of a run only the file of that log, and writing a report only the file it goes to and the file
of the log, whether or not it succeeds.
-/
namespace StyleScore

/-- Where a path leads to from the folder `home`, if the folders on the way are there. -/
def Path.placeFrom (home : List Text) (path : Path) : List Text :=
  path.parts.foldl Path.step (if path.root = .relative then home else [])

theorem Disk.destination_eq (disk : Disk) (path : Path) :
    disk.destination path = path.placeFrom disk.workFolder := rfl

namespace Action

variable {α β : Type}

/-- Whatever the world, the action leaves the disk as it is. -/
def OnlyLooks (action : Action α) : Prop := ∀ world, (action world).2.disk = world.disk

theorem OnlyLooks.bind {step : Action α} {next : α → Action β} (first : OnlyLooks step)
    (second : ∀ value, OnlyLooks (next value)) : OnlyLooks (step >>= next) := by
  intro world
  have same := first world
  cases ran : step world with
  | mk result between =>
    rw [ran] at same
    cases result with
    | error e =>
      rw [bind_of_error ran]
      exact same
    | ok value =>
      rw [bind_of_ok ran]
      exact (second value between).trans same

theorem onlyLooks_pure (value : α) : OnlyLooks (pure value : Action α) := fun _ => rfl

theorem onlyLooks_throw (e : Error) : OnlyLooks (throw e : Action α) := fun _ => rfl

theorem onlyLooks_get : OnlyLooks (get : Action World) := fun _ => rfl

theorem onlyLooks_record (level : Level) (source : Source) (text : Text) :
    OnlyLooks (record level source text) :=
  fun _ => rfl

theorem onlyLooks_ofExcept (result : Except Error α) : OnlyLooks (ofExcept result) := by
  cases result with
  | ok value => exact onlyLooks_pure value
  | error e => exact onlyLooks_throw e

theorem onlyLooks_inspect (look : Disk → Except Error α) : OnlyLooks (inspect look) :=
  onlyLooks_get.bind fun _ => onlyLooks_ofExcept _

/-- The clock always has a reading. -/
theorem exists_seconds (world : World) :
    ∃ reading after, after.disk = world.disk ∧ seconds world = (.ok reading, after) := by
  obtain ⟨disk, journal, clock, now⟩ := world
  match clock with
  | [] => exact ⟨_, _, rfl, rfl⟩
  | [last] => exact ⟨_, _, rfl, rfl⟩
  | reading :: next :: later => exact ⟨reading, ⟨disk, journal, next :: later, now⟩, rfl, rfl⟩

theorem onlyLooks_seconds : OnlyLooks seconds := by
  intro world
  obtain ⟨_, _, same, looked⟩ := exists_seconds world
  rw [looked]
  exact same

/-- From the working folder `home`, the action changes files only at places where it may. -/
def Confined (home : List Text) (mayChange : List Text → Prop) (action : Action α) : Prop :=
  ∀ world : World, world.disk.Sound → world.disk.workFolder = home →
    world.disk.Keeps mayChange (action world).2.disk

section Confined

variable {home : List Text} {mayChange other : List Text → Prop}

theorem Confined.mono {action : Action α} (confined : Confined home mayChange action)
    (weaker : ∀ place, mayChange place → other place) : Confined home other action :=
  fun world sound atHome => (confined world sound atHome).mono weaker

theorem OnlyLooks.confined {action : Action α} (looks : OnlyLooks action) :
    Confined home mayChange action := by
  intro world _ _
  rw [looks world]
  exact Disk.Keeps.refl _ _

theorem Confined.bind {step : Action α} {next : α → Action β} (first : Confined home mayChange step)
    (second : ∀ value, Confined home mayChange (next value)) :
    Confined home mayChange (step >>= next) := by
  intro world sound atHome
  have keeps := first world sound atHome
  cases ran : step world with
  | mk result between =>
    rw [ran] at keeps
    cases result with
    | error e =>
      rw [bind_of_error ran]
      exact keeps
    | ok value =>
      rw [bind_of_ok ran]
      exact keeps.trans (second value between (keeps.sound sound) (keeps.home.trans atHome))

theorem Confined.attempt {action : Action α} (confined : Confined home mayChange action) :
    Confined home mayChange action.attempt := confined

theorem confined_change {f : Disk → Except Error Unit × Disk}
    (keeps : ∀ disk : Disk, disk.Sound → disk.workFolder = home → disk.Keeps mayChange (f disk).2) :
    Confined home mayChange (change f) := by
  intro world sound atHome
  rw [change_eq]
  exact keeps world.disk sound atHome

end Confined
end Action

namespace RunLog
open StyleScore.Action

/-- The place of the file of a log. -/
def place (home : List Text) (log : RunLog) : List Text := (log.file.absolute home).placeFrom home

theorem onlyLooks_toConsole (log : RunLog) (message : Text) : OnlyLooks (log.toConsole message) :=
  (onlyLooks_record _ _ _).bind fun _ => onlyLooks_pure _

theorem confined_write (home : List Text) (log : RunLog) (level : Level) (text : Text) :
    Confined home (· = log.place home) (log.write level text) := by
  refine onlyLooks_get.confined.bind fun world => confined_change fun disk sound atHome => ?_
  split
  · next after written =>
    obtain ⟨keeps, -⟩ := Disk.update_spec sound written
    rw [Disk.destination_eq, atHome] at keeps
    exact keeps
  · exact Disk.Keeps.refl _ _

theorem confined_writeError (home : List Text) (log : RunLog) (e : Error) :
    Confined home (· = log.place home) (log.writeError e) := log.confined_write home _ _

end RunLog

namespace Writer
open StyleScore.Action

variable (home : List Text) (writer : Writer) (path : Path) (text : Text)

/-- A place where writing to `path` may change a file. -/
def MayChange (place : List Text) : Prop :=
  place = path.placeFrom home ∨ ∃ log, writer.log = some log ∧ place = log.place home

theorem confined_save : Confined home (writer.MayChange home path) (writer.save path text) := by
  have saved : Confined home (writer.MayChange home path)
      (change fun disk => disk.save path text) := by
    refine confined_change fun disk sound atHome => ?_
    obtain ⟨keeps, -⟩ := Disk.save_spec sound path text
    rw [Disk.destination_eq, atHome] at keeps
    exact keeps.mono fun _ own => .inl own
  refine saved.attempt.bind fun result => ?_
  split
  · exact (onlyLooks_pure ()).confined
  · refine (onlyLooks_record _ _ _).confined.bind fun _ => ?_
    split
    · next log own =>
      refine Confined.bind ?_ fun _ => (onlyLooks_throw _).confined
      exact (log.confined_writeError home _).mono fun place same => .inr ⟨log, own, same⟩
    · exact (onlyLooks_pure ()).confined.bind fun _ => (onlyLooks_throw _).confined
  · exact (onlyLooks_throw _).confined

theorem confined_saveText :
    Confined home (writer.MayChange home path) (writer.saveText path text) :=
  (writer.confined_save home path text).bind fun _ =>
    (onlyLooks_record _ _ _).confined.bind fun _ => (onlyLooks_pure _).confined

theorem confined_writeData (data : Value) (name : Option Text) :
    Confined home (writer.MayChange home (writer.outputPath name)) (writer.writeData data name) :=
  (onlyLooks_ofExcept _).confined.bind fun text => writer.confined_saveText home _ text

theorem confined_writeAs (name : Text) :
    Confined home (writer.MayChange home (Path.ofText name))
      (writer.writeAs (.text text) (some name)) := by
  unfold writeAs
  split
  · exact (onlyLooks_throw _).confined
  · next _ kept =>
    obtain rfl := Option.some.inj (Option.filter_eq_some_iff.1 kept).1
    split
    · exact (onlyLooks_throw _).confined
    · exact writer.confined_saveText home _ text

end Writer
end StyleScore
