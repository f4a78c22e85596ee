import StyleScore.Proofs.Outcome
import StyleScore.Reader
import StyleScore.Writer

/-!
How actions on the disk fail: writing and adding to a file only with errors of files, and reading in
ways that a run survives.
-/
namespace StyleScore

/-- The errors of paths and files, and of having nothing to write to them. -/
def Error.isOfFiles : Error → Bool
  | file _ _ | embeddedNull | noOutput => true
  | _ => false

theorem Error.isSurvivable_of_isOfFiles {e : Error} (ofFiles : e.isOfFiles = true) :
    e.isSurvivable = true := by
  cases e <;> simp_all [isOfFiles, isSurvivable, isAnnounced]

namespace Action

theorem bind_of_ok {α β : Type} {step : Action α} {next : α → Action β}
    {world after : World} {value : α} (success : step world = (.ok value, after)) :
    (step >>= next) world = next value after := by
  change ExceptT.bindCont next (step world).1 (step world).2 = _
  rw [success]
  rfl

theorem bind_of_error {α β : Type} {step : Action α} {next : α → Action β}
    {world after : World} {e : Error} (failure : step world = (.error e, after)) :
    (step >>= next) world = (.error e, after) := by
  change ExceptT.bindCont next (step world).1 (step world).2 = _
  rw [failure]
  rfl

/-- What follows an action depends on nothing but how the action ends. -/
theorem bind_congr_at {α β : Type} {step other : Action α} {next : α → Action β}
    {world elsewhere : World} (same : step world = other elsewhere) :
    (step >>= next) world = (other >>= next) elsewhere := by
  change ExceptT.bindCont next (step world).1 (step world).2 = _
  rw [same]
  rfl

theorem change_eq (f : Disk → Except Error Unit × Disk) (world : World) :
    change f world = ((f world.disk).1, { world with disk := (f world.disk).2 }) := by
  change ofExcept (f world.disk).1 { world with disk := (f world.disk).2 } = _
  cases (f world.disk).1 <;> rfl

theorem bind_attempt {α β : Type} {action : Action α} {next : Except Error α → Action β}
    {world after : World} {result : Except Error α} (ran : action world = (result, after)) :
    (action.attempt >>= next) world = next result after := by
  have attempted : action.attempt world = (.ok result, after) := by rw [attempt, ran]
  exact bind_of_ok attempted

theorem bind_eq_ok {α β : Type} {step : Action α} {next : α → Action β} {world after : World}
    {value : β} :
    (step >>= next) world = (.ok value, after) ↔
      ∃ a between, step world = (.ok a, between) ∧ next a between = (.ok value, after) := by
  cases ran : step world with
  | mk result between =>
    cases result with
    | ok a =>
      rw [bind_of_ok ran]
      constructor
      · intro success
        exact ⟨a, between, rfl, success⟩
      · rintro ⟨_, _, same, success⟩
        cases same
        exact success
    | error e =>
      rw [bind_of_error ran]
      constructor
      · intro impossible
        cases impossible
      · rintro ⟨_, _, impossible, -⟩
        cases impossible

theorem ofExcept_eq_ok {α : Type} {result : Except Error α} {value : α} {world after : World} :
    ofExcept result world = (.ok value, after) ↔ result = .ok value ∧ after = world := by
  cases result with
  | ok own =>
    change (Except.ok own, world) = (Except.ok value, after) ↔ _
    simp [eq_comm]
  | error e =>
    change (Except.error e, world) = (Except.ok value, after) ↔ _
    simp

/-- Whatever the world, the action fails only with errors of a kind. -/
def FailsOnly {α : Type} (kind : Error → Bool) (action : Action α) : Prop :=
  ∀ world e, (action world).1 = .error e → kind e = true

section FailsOnly

variable {α β : Type} {kind : Error → Bool}

theorem FailsOnly.bind {step : Action α} {next : α → Action β} (first : FailsOnly kind step)
    (second : ∀ value, FailsOnly kind (next value)) : FailsOnly kind (step >>= next) := by
  intro world e failure
  cases ran : step world with
  | mk result after =>
    cases result with
    | error other =>
      rw [bind_of_error ran] at failure
      rw [← Except.error.inj failure]
      exact first world other (by rw [ran])
    | ok value =>
      rw [bind_of_ok ran] at failure
      exact second value after e failure

theorem failsOnly_pure (value : α) : FailsOnly kind (pure value : Action α) := by
  intro world e impossible
  cases impossible

theorem failsOnly_throw {e : Error} (own : kind e = true) :
    FailsOnly kind (throw e : Action α) := by
  intro world other failure
  rwa [← Except.error.inj failure]

theorem failsOnly_record (level : Level) (source : Source) (text : Text) :
    FailsOnly kind (record level source text) := by
  intro world e impossible
  cases impossible

theorem failsOnly_get : FailsOnly kind (get : Action World) := by
  intro world e impossible
  cases impossible

/-- What follows an attempt may count on the kind of its error. -/
theorem FailsOnly.bind_attempt {action : Action α} {next : Except Error α → Action β}
    (first : FailsOnly kind action) (ok : ∀ value, FailsOnly kind (next (.ok value)))
    (error : ∀ e, kind e = true → FailsOnly kind (next (.error e))) :
    FailsOnly kind (action.attempt >>= next) := by
  intro world e failure
  cases ran : action world with
  | mk result after =>
    rw [Action.bind_attempt ran] at failure
    cases result with
    | ok value => exact ok value after e failure
    | error other => exact error other (first world other (by rw [ran])) after e failure

theorem failsOnly_change {f : Disk → Except Error Unit × Disk}
    (own : ∀ disk e, (f disk).1 = .error e → kind e = true) : FailsOnly kind (change f) := by
  intro world e failure
  rw [change_eq] at failure
  exact own world.disk e failure

end FailsOnly
end Action

namespace Disk

theorem isOfFiles_of_place {disk : Disk} {path : Path} {e : Error}
    (failure : disk.place path = .error e) :
    e.isOfFiles = true := by
  unfold place at failure
  split at failure
  · cases failure
    rfl
  · cases located : disk.locate path with
    | ok place =>
      rw [located] at failure
      cases failure
    | error cause =>
      rw [located] at failure
      cases failure
      rfl

theorem readText_survivable {disk : Disk} {path : Path} {e : Error}
    (failure : disk.readText path = .error e) :
    e.isSurvivable = true := by
  rcases bind_eq_error.1 failure with unread | ⟨bytes, -, failure⟩
  · rcases bind_eq_error.1 unread with misplaced | ⟨found, -, unread⟩
    · exact Error.isSurvivable_of_isOfFiles (isOfFiles_of_place (map_eq_error.1 misplaced))
    · split at unread <;> cases unread <;> rfl
  · split at failure <;> cases failure
    rfl

theorem isOfFiles_of_update {disk : Disk} {path : Path}
    {change : List UInt8 → List UInt8} {e : Error} (failure : disk.update path change = .error e) :
    e.isOfFiles = true := by
  rcases bind_eq_error.1 failure with misplaced | ⟨place, -, failure⟩
  · exact isOfFiles_of_place misplaced
  · split at failure <;> cases failure
    rfl

theorem isOfFiles_of_makeFolder {disk : Disk} {path : Path} {e : Error}
    (failure : disk.makeFolder path = .error e) :
    e.isOfFiles = true := by
  rcases bind_eq_error.1 failure with misplaced | ⟨place, -, failure⟩
  · exact isOfFiles_of_place misplaced
  · split at failure <;> cases failure
    rfl

theorem isOfFiles_of_ensureFolder {disk : Disk} {path : Path} {e : Error}
    (failure : (disk.ensureFolder path).1 = .error e) : e.isOfFiles = true := by
  unfold ensureFolder at failure
  split at failure
  · cases failure
  · split at failure <;> cases failure
    rfl
  · next other unmade =>
    cases failure
    exact isOfFiles_of_makeFolder unmade

theorem isOfFiles_of_ensureFoldersWithin {disk : Disk} {path : Path} {above : Nat} {e : Error}
    (failure : (disk.ensureFoldersWithin path above).1 = .error e) : e.isOfFiles = true := by
  induction above generalizing disk path e with
  | zero => exact isOfFiles_of_ensureFolder failure
  | succ above ih =>
    rw [ensureFoldersWithin] at failure
    split at failure
    · split at failure
      · exact isOfFiles_of_ensureFolder failure
      · exact ih failure
    · exact isOfFiles_of_ensureFolder failure

theorem isOfFiles_of_save {disk : Disk} {path : Path} {text : Text} {e : Error}
    (failure : (disk.save path text).1 = .error e) : e.isOfFiles = true := by
  unfold save at failure
  split at failure
  · split at failure
    · cases failure
    · next other unwritten =>
      cases failure
      exact isOfFiles_of_update unwritten
  · exact isOfFiles_of_ensureFoldersWithin failure

end Disk

theorem RunLog.failsOnly_writeError (log : RunLog) (e : Error) :
    Action.FailsOnly Error.isOfFiles (log.writeError e) := by
  refine Action.failsOnly_get.bind fun world => Action.failsOnly_change ?_
  intro disk other failure
  split at failure
  · cases failure
  · next unwritten =>
    cases failure
    exact Disk.isOfFiles_of_update unwritten

namespace Writer
open StyleScore.Action

theorem failsOnly_save (writer : Writer) (path : Path) (text : Text) :
    FailsOnly Error.isOfFiles (writer.save path text) := by
  have change : FailsOnly Error.isOfFiles (Action.change fun disk => disk.save path text) :=
    failsOnly_change fun _ _ => Disk.isOfFiles_of_save
  refine change.bind_attempt (fun _ => failsOnly_pure ()) ?_
  intro e ofFiles
  split
  · exact failsOnly_pure ()
  · next cause name same =>
    refine (failsOnly_record _ _ _).bind fun _ => ?_
    split
    · exact (RunLog.failsOnly_writeError _ _).bind fun _ => failsOnly_throw rfl
    · exact failsOnly_throw rfl
  · next other same =>
    rw [← Except.error.inj same]
    exact failsOnly_throw ofFiles

theorem failsOnly_saveText (writer : Writer) (path : Path) (text : Text) :
    FailsOnly Error.isOfFiles (writer.saveText path text) :=
  (failsOnly_save writer path text).bind fun _ =>
    (failsOnly_record _ _ _).bind fun _ => failsOnly_pure path

/-- A value without JSON text leaves the world as it is. -/
theorem writeData_of_error {data : Value} {e : Error} (failure : data.plain.jsonText = .error e)
    (writer : Writer) (name : Option Text) (world : World) :
    writer.writeData data name world = (.error e, world) := by
  unfold writeData
  apply bind_of_error
  rw [failure]
  rfl

end Writer
end StyleScore
