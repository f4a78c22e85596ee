import StyleScore.Proofs.Cli.Isolation

/-!
What the file of the log says of a run. A writer with a log writes as one without, and notes what
the disk refuses (`Writer.save_eq_noting`, `attemptOn_eq_noting`); the run notes each failure
itself. So a failure stands in the file once, and twice where the disk refused a report
(`Outcome.notes`). Main statement: a run that comes to its end leaves for each style sheet the disk
that work without a log leaves, with these notes added to the file of the log, and nothing else goes
there unless a report does (`run_notes_failures`).
-/
namespace StyleScore

/-- The disk refused a file. -/
def Error.isRefusal : Error → Bool
  | file _ _ => true
  | _ => false

/-- Making a report meets no refusal: a file that the disk does not give is one that cannot be
read. -/
theorem Report.isRefusal_of_ofFile {disk : Disk} {path : Path} {e : Error}
    (failed : ofFile disk path = .error e) :
    e.isRefusal = false := by
  unfold ofFile at failed
  split at failed
  · cases failed
    rfl
  · split at failed
    · unfold ofContents at failed
      split at failed
      · cases failed
        rfl
      · split at failed
        · cases failed
          rfl
        · split at failed
          · cases failed
            rfl
          · rcases isOfRules_of_ofRules failed with ofRules | rfl
            · cases e <;> simp_all [Error.isOfRules, Error.isOfInventory, Error.isRefusal]
            · rfl
    · cases failed
      rfl
    · next other _ =>
      cases failed
      cases e with
      | file cause name => exact absurd rfl (other cause name)
      | _ => rfl

/-! ### Writing with a log and without -/

namespace RunLog
open StyleScore.Action

variable {α β : Type} {action : Action α} {world after : World} {e : Error} (log : RunLog)

/-- An error goes on its way; if the disk refused a file, there is a note of it first. -/
def rethrow (e : Error) : Action α :=
  if e.isRefusal then do
    log.writeError e
    throw e
  else throw e

/-- The action, with a note in the file of the log of what the disk refuses. -/
def noting (action : Action α) : Action α := do
  match ← action.attempt with
  | .ok value => return value
  | .error e => log.rethrow e

theorem rethrow_bind (e : Error) (next : α → Action β) :
    log.rethrow e >>= next = log.rethrow e := by
  unfold rethrow
  split
  · rw [bind_assoc]
    rfl
  · rfl

theorem noting_of_ok {value : α} (success : action world = (.ok value, after)) :
    log.noting action world = (.ok value, after) :=
  bind_attempt success

theorem noting_of_error (failure : action world = (.error e, after)) :
    log.noting action world = log.rethrow e after :=
  bind_attempt failure

theorem noting_congr {other : Action α} {elsewhere : World}
    (same : action world = other elsewhere) :
    log.noting action world = log.noting other elsewhere := by
  cases ran : other elsewhere with
  | mk result after =>
    cases result with
    | ok value => rw [noting_of_ok log (same.trans ran), noting_of_ok log ran]
    | error e => rw [noting_of_error log (same.trans ran), noting_of_error log ran]

theorem rethrow_of_not_refusal (calm : e.isRefusal = false) :
    (log.rethrow e : Action α) = throw e := by
  unfold rethrow
  rw [calm]
  rfl

/-- Where the disk refuses nothing, nothing is noted. -/
theorem noting_of_failsOnly (calm : FailsOnly (fun e => !e.isRefusal) action) :
    log.noting action = action := by
  funext world
  cases ran : action world with
  | mk result after =>
    cases result with
    | ok value => exact noting_of_ok log ran
    | error e =>
      have other := calm world e (by rw [ran])
      rw [noting_of_error log ran, rethrow_of_not_refusal log (by simpa using other)]
      rfl

theorem noting_bind (step : Action α) (next : α → Action β) :
    log.noting (step >>= next) = log.noting step >>= fun value => log.noting (next value) := by
  funext world
  cases ran : step world with
  | mk result after =>
    cases result with
    | ok value =>
      rw [bind_of_ok (noting_of_ok log ran)]
      exact noting_congr log (bind_of_ok ran)
    | error e =>
      have goesOn := congrFun (log.rethrow_bind e fun value => log.noting (next value)) after
      rw [noting_of_error log (bind_of_error ran), bind_congr_at (noting_of_error log ran), goesOn]

end RunLog

namespace Writer
open StyleScore.Action

variable (name : Text) (log : RunLog) (path : Path) (text : Text)

theorem save_of_not_refusal {path : Path} {text : Text} {world after : World} {e : Error}
    (writer : Writer)
    (attempted : (change fun disk => disk.save path text).attempt world = (.ok (.error e), after))
    (calm : e.isRefusal = false) : writer.save path text world = (.error e, after) := by
  cases e with
  | file cause target => cases calm
  | _ => exact bind_of_ok attempted

/-- A writer with a log writes as one without, and notes what the disk refuses. -/
theorem save_eq_noting :
    save ⟨name, some log⟩ path text = log.noting (save ⟨name, none⟩ path text) := by
  funext world
  have attempted := attempt_save world path text
  cases saved : (world.disk.save path text).1 with
  | ok done => rw [save_of_ok _ saved, log.noting_of_ok (save_of_ok _ saved)]
  | error e =>
    rw [saved] at attempted
    cases refusal : e.isRefusal with
    | false =>
      rw [save_of_not_refusal _ attempted refusal,
        log.noting_of_error (save_of_not_refusal _ attempted refusal),
        log.rethrow_of_not_refusal refusal]
      rfl
    | true =>
      cases e with
      | file cause target =>
        -- both writers make the same entry in the journal first
        have both : ∃ later, save ⟨name, none⟩ path text world =
            (.error (.file cause target), later) ∧
            save ⟨name, some log⟩ path text world = log.rethrow (.file cause target) later :=
          ⟨_, bind_of_ok attempted, bind_of_ok attempted⟩
        obtain ⟨later, quiet, loud⟩ := both
        rw [log.noting_of_error quiet, loud]
      | _ => cases refusal

theorem saveText_eq_noting :
    saveText ⟨name, some log⟩ path text = log.noting (saveText ⟨name, none⟩ path text) := by
  have rest : FailsOnly (fun e => !e.isRefusal)
      (do record .info .writer ("Wrote ".toList ++ path.text); return path : Action Path) :=
    (failsOnly_record _ _ _).bind fun _ => failsOnly_pure path
  unfold saveText
  rw [log.noting_bind, save_eq_noting]
  simp only [log.noting_of_failsOnly rest]

theorem writeAs_eq_noting (target : Option Text) :
    writeAs ⟨name, some log⟩ (.text text) target =
      log.noting (writeAs ⟨name, none⟩ (.text text) target) := by
  have refused : FailsOnly (fun e => !e.isRefusal) (throw .noOutput : Action Path) :=
    failsOnly_throw rfl
  unfold writeAs
  split
  · exact (log.noting_of_failsOnly refused).symm
  · split
    · exact (log.noting_of_failsOnly refused).symm
    · exact saveText_eq_noting name log _ text

end Writer

namespace Cli
open StyleScore.Action

theorem publish_eq_noting {report : Report} (writing : report.Writing) (name : Text) (log : RunLog)
    (output html : Option Text) :
    publish ⟨name, some log⟩ output html report =
      log.noting (publish ⟨name, none⟩ output html report) := by
  cases writing with
  | complete data page =>
    obtain ⟨json, form⟩ := data
    have calm : FailsOnly (fun e => !e.isRefusal) (pure report : Action Report) :=
      failsOnly_pure report
    rw [publish_of_complete form page, publish_of_complete form page, log.noting_bind,
      Writer.saveText_eq_noting]
    refine congrArg (log.noting _ >>= ·) (funext fun _ => ?_)
    split
    · exact (log.noting_of_failsOnly calm).symm
    · rw [log.noting_bind, Writer.writeAs_eq_noting]
      simp only [log.noting_of_failsOnly calm]
  | refused data page =>
    -- the data is refused before the disk is asked for anything
    funext world
    rw [publish_of_refused data, log.noting_of_error (publish_of_refused data _ _ _ world)]
    rfl

/-- Work on a style sheet with a writer that has no log. -/
def attemptQuietly (options : Options) (count : Nat) (labels : List (Path × Text)) (path : Path) :
    Action Report :=
  analyze (Writer.create none none) path (outputName options count (labelOf labels path))
    (pageName options count (labelOf labels path))

/-- The log only listens: what is done for a style sheet is what is done without it, and refusals
are noted. -/
theorem attemptOn_eq_noting (options : Options) (count : Nat) (labels : List (Path × Text))
    (log : RunLog) (path : Path) (world : World) :
    attemptOn options count labels log path world =
      log.noting (attemptQuietly options count labels path) world := by
  obtain ⟨between, -, ran⟩ := analyze_eq_ofFile world path
  unfold attemptQuietly
  rw [log.noting_congr (ran (Writer.create none none) _ _)]
  refine (ran (Writer.create none (some log)) _ _).trans ?_
  cases made : Report.ofFile world.disk path with
  | error e =>
    have calm : FailsOnly (fun e => !e.isRefusal) (throw e : Action Report) :=
      failsOnly_throw (by rw [Report.isRefusal_of_ofFile made]; rfl)
    exact (congrFun (log.noting_of_failsOnly calm) between).symm
  | ok report =>
    exact congrFun (publish_eq_noting (Report.writing_of_ofFile made) _ log _ _) between

end Cli

/-! ### Notes of errors -/

namespace RunLog
open StyleScore.Action

/-- The line about an error in the file of a log. -/
def errorLine (time : Text) (e : Error) : Text :=
  line time .error (e.label ++ ": ".toList ++ e.message?.getD [])

/-- The file of the log receives notes of errors one after another, each as a dated line of its
own. -/
inductive Receives (log : RunLog) : List Error → Disk → Disk → Prop
  | nothing (disk : Disk) : Receives log [] disk disk
  | note {e : Error} {more : List Error} {disk next last : Disk} (time : Text)
      (added : disk.appendText (log.file.absolute disk.workFolder) (errorLine time e) = .ok next)
      (rest : Receives log more next last) : Receives log (e :: more) disk last

theorem writeError_cases (log : RunLog) (e : Error) (world : World) :
    (∃ after, world.disk.appendText (log.file.absolute world.disk.workFolder)
      (errorLine world.now e) = .ok after.disk ∧
        log.writeError e world = (.ok (), after)) ∨
      ∃ cause, world.disk.appendText (log.file.absolute world.disk.workFolder)
        (errorLine world.now e) = .error cause ∧
        log.writeError e world = (.error cause, world) := by
  unfold writeError writeLabelled write
  rw [bind_of_ok (show (get : Action World) world = (.ok world, world) from rfl), change_eq]
  cases added : world.disk.appendText (log.file.absolute world.disk.workFolder)
    (errorLine world.now e) with
  | ok disk =>
    refine .inl ⟨{ world with disk := disk }, rfl, ?_⟩
    rw [errorLine] at added
    simp only [added]
  | error cause =>
    refine .inr ⟨cause, rfl, ?_⟩
    rw [errorLine] at added
    simp only [added]

theorem appended_of_writeError {log : RunLog} {e : Error} {world after : World}
    (written : log.writeError e world = (.ok (), after)) :
    world.disk.appendText (log.file.absolute world.disk.workFolder) (errorLine world.now e) =
      .ok after.disk := by
  rcases log.writeError_cases e world with ⟨other, added, ran⟩ | ⟨cause, -, ran⟩
  · obtain ⟨-, rfl⟩ := Prod.mk.inj (written.symm.trans ran)
    exact added
  · cases written.symm.trans ran

theorem Receives.of_file {log own : RunLog} (same : own.file = log.file) {errors : List Error}
    {disk last : Disk} (receives : own.Receives errors disk last) :
    log.Receives errors disk last := by
  induction receives with
  | nothing disk => exact .nothing disk
  | note time added rest induction =>
    rw [same] at added
    exact .note time added induction

/-- The lines are about the errors, in their order, each with the time that the clock showed. -/
def AreAbout (lines : List Text) (errors : List Error) : Prop :=
  List.Forall₂ (fun line e => ∃ time, line = errorLine time e) lines errors

/-- The notes are added to what the file of the log held, and no other file changes. -/
theorem Receives.held_eq {log : RunLog} {errors : List Error} {disk last : Disk}
    (receives : log.Receives errors disk last) (sound : disk.Sound) :
    disk.Keeps (· = log.place disk.workFolder) last ∧
      ∃ lines, AreAbout lines errors ∧
        last.held (log.place disk.workFolder) = disk.held (log.place disk.workFolder) ++
          Text.Utf8.encode lines.flatten := by
  induction receives with
  | nothing disk => exact ⟨Disk.Keeps.refl _ _, [], .nil, by simp [Text.Utf8.encode]⟩
  | @note e more disk next last time added rest induction =>
    obtain ⟨first, grown⟩ := Disk.appendText_spec sound added
    obtain ⟨second, lines, about, grownToo⟩ := induction (first.sound sound)
    have here : disk.destination (log.file.absolute disk.workFolder) = log.place disk.workFolder :=
      rfl
    rw [here] at first grown
    rw [first.home] at second grownToo
    refine ⟨first.trans second, errorLine time e :: lines, .cons ⟨time, rfl⟩ about, ?_⟩
    rw [grownToo, grown, List.flatten_cons, Text.Utf8.encode_append, List.append_assoc]

end RunLog

/-! ### The notes of a run -/

namespace Cli
open StyleScore.Action RunLog

/-- The errors of which the file of the log receives a note: one of each failure, and one more where
the disk refused a report. -/
def Outcome.notes : Outcome → List Error
  | reported _ => []
  | unwritten _ e => if e.isRefusal then [e, e] else [e]
  | unscored e => [e]

section Step

variable {options : Options} {count : Nat} {labels : List (Path × Text)} {log next : RunLog}
  {world after later : World} {path : Path} {outcome : Outcome} {e : Error}

theorem Outcome.notes_of_error (failed : outcome.result = .error e)
    (present : e.isRefusal = true → outcome.report?.isSome = true) :
    outcome.notes = if e.isRefusal then [e, e] else [e] := by
  cases outcome with
  | reported report => cases failed
  | unwritten report own =>
    cases failed
    rfl
  | unscored own =>
    cases failed
    have calm : ¬ e.isRefusal = true := fun refused => by cases present refused
    rw [if_neg calm]
    rfl

theorem appended_of_noteFailure (noted : noteFailure log path e world = (.ok (), later)) :
    ∃ time, world.disk.appendText (log.file.absolute world.disk.workFolder) (errorLine time e) =
      .ok later.disk := by
  obtain ⟨_, between, recorded, written⟩ := Action.bind_eq_ok.1 noted
  have same : between.disk = world.disk := by rw [← onlyLooks_record _ _ _ world, recorded]
  rw [← same]
  exact ⟨between.now, appended_of_writeError written⟩

/-- A refusal comes from writing: there is a report. -/
theorem report?_of_isRefusal {quiet : World}
    (origin : (Report.ofFile world.disk path).toOption = outcome.report?)
    (failed : attemptQuietly options count labels path world = (.error e, quiet))
    (refused : e.isRefusal = true) :
    outcome.report?.isSome = true := by
  obtain ⟨between, -, ran⟩ := analyze_eq_ofFile world path
  have published := (ran _ _ _).symm.trans failed
  cases made : Report.ofFile world.disk path with
  | ok report =>
    rw [← origin, made]
    rfl
  | error cause =>
    rw [made] at published
    obtain ⟨same, -⟩ := Prod.mk.inj published
    rw [← Except.error.inj same, Report.isRefusal_of_ofFile made] at refused
    cases refused

/-- An error that is thrown with a note, if the disk refused a file, and then noted by the run. -/
theorem receives_of_rethrow {quiet : World} {result : Except Error Report}
    (thrown : log.rethrow e quiet = (result, after))
    (settled : settle log path result after = (.ok next, later)) :
    result = .error e ∧
    log.Receives (if e.isRefusal then [e, e] else [e]) quiet.disk later.disk := by
  unfold rethrow at thrown
  split at thrown
  · next refused =>
    rw [if_pos refused]
    rcases log.writeError_cases e quiet with ⟨first, added, wrote⟩ | ⟨cause, unadded, wrote⟩
    · rw [bind_of_ok wrote] at thrown
      cases thrown
      obtain ⟨-, noted⟩ := noteFailure_of_settle settled
      obtain ⟨time, again⟩ := appended_of_noteFailure noted
      exact ⟨rfl, .note quiet.now added (.note time again (.nothing _))⟩
    · -- The file of the log refused the first note, and so it refuses the next one: the run does
      -- not go on.
      rw [bind_of_error wrote] at thrown
      cases thrown
      obtain ⟨-, noted⟩ := noteFailure_of_settle settled
      obtain ⟨time, added⟩ := appended_of_noteFailure noted
      cases (Disk.appendText_of_error unadded _).symm.trans added
  · next calm =>
    cases thrown
    obtain ⟨-, noted⟩ := noteFailure_of_settle settled
    obtain ⟨time, added⟩ := appended_of_noteFailure noted
    rw [if_neg calm]
    exact ⟨rfl, .note time added (.nothing _)⟩

/-- What a run leaves of a style sheet: the disk that work without a log leaves, and the notes in
the file of the log. -/
theorem receives_of_settle
    (attempted : attemptOn options count labels log path world = (outcome.result, after))
    (origin : (Report.ofFile world.disk path).toOption = outcome.report?)
    (settled : settle log path outcome.result after = (.ok next, later)) :
    ∃ quiet, attemptQuietly options count labels path world = (outcome.result, quiet) ∧
      log.Receives outcome.notes quiet.disk later.disk := by
  rw [attemptOn_eq_noting] at attempted
  cases ran : attemptQuietly options count labels path world with
  | mk result quiet =>
    cases result with
    | ok report =>
      obtain ⟨same, rfl⟩ := Prod.mk.inj ((log.noting_of_ok ran).symm.trans attempted)
      refine ⟨quiet, congrArg (·, quiet) same, ?_⟩
      cases outcome with
      | reported other =>
        have shown := onlyLooks_toConsole log (summaryLine path other) quiet
        rw [show log.toConsole (summaryLine path other) quiet =
          (.ok next, later) from settled] at shown
        rw [shown]
        exact .nothing _
      | unwritten other e => cases same
      | unscored e => cases same
    | error e =>
      rw [log.noting_of_error ran] at attempted
      obtain ⟨failed, receives⟩ := receives_of_rethrow attempted settled
      rw [outcome.notes_of_error failed (report?_of_isRefusal origin ran), failed]
      exact ⟨quiet, rfl, receives⟩

end Step

section Course

variable {options : Options} {count : Nat} {labels : List (Path × Text)} {home : List Text}
    {log last : RunLog}
  {world now : World} {path : Path} {outcomes : List (Path × Outcome)}

/-- Without a log, work on a style sheet changes no file but those of its reports. -/
theorem keeps_attemptQuietly {quiet : World} {result : Except Error Report}
    (sound : world.disk.Sound) (atHome : world.disk.workFolder = home)
    (ran : attemptQuietly options count labels path world = (result, quiet)) :
    world.disk.Keeps (· ∈ reportPlaces options count labels home path) quiet.disk := by
  obtain ⟨between, same, worked⟩ := analyze_eq_ofFile world path
  have ended : quiet = (attemptQuietly options count labels path world).2 := by rw [ran]
  unfold attemptQuietly at ended
  rw [ended, worked]
  cases made : Report.ofFile world.disk path with
  | error e =>
    change world.disk.Keeps _ between.disk
    rw [same]
    exact Disk.Keeps.refl _ _
  | ok report =>
    rw [← same] at sound atHome ⊢
    refine (confined_publish home _ _ _ report between sound atHome).mono ?_
    rintro place ((rfl | ⟨_, none, -⟩) | ⟨name, asked, rfl | ⟨_, none, -⟩⟩)
    · exact dataPlace_mem options count labels home path
    · cases none
    · exact pagePlace_mem asked
    · cases none

/-- Where no report goes to the file of the log, this holds in the end what it held, and behind that
the notes. -/
theorem held_of_course (course : Course options count labels log world outcomes last now)
    (sound : world.disk.Sound) (atHome : world.disk.workFolder = home)
    (unlogged : ∀ item ∈ outcomes, log.place home ∉ reportPlaces options count labels home item.1) :
    ∃ lines, AreAbout lines (outcomes.flatMap (·.2.notes)) ∧
      now.disk.held (log.place home) = world.disk.held (log.place home) ++
        Text.Utf8.encode lines.flatten := by
  induction course with
  | start log world => exact ⟨[], .nil, by simp [Text.Utf8.encode]⟩
  | @next log next last world after later now path outcome outcomes attempted origin mild settled
    rest induction =>
    obtain ⟨quiet, ran, receives⟩ := receives_of_settle attempted origin settled
    obtain ⟨own, others⟩ := List.forall_mem_cons.1 unlogged
    have samePlace : next.place home = log.place home := place_of_file (file_of_settle settled)
    have first := keeps_attemptQuietly sound atHome ran
    have quietHome : quiet.disk.workFolder = home := first.home.trans atHome
    obtain ⟨second, lines, about, grown⟩ := receives.held_eq (first.sound sound)
    rw [quietHome, first.held_eq own] at grown
    rw [← samePlace] at others
    obtain ⟨more, aboutToo, grownToo⟩ :=
      induction (second.sound (first.sound sound)) (second.home.trans quietHome) others
    rw [samePlace, grown] at grownToo
    refine ⟨lines ++ more, List.rel_append about aboutToo, ?_⟩
    rw [grownToo, List.flatten_append, Text.Utf8.encode_append, List.append_assoc]

end Course

/-- A run that comes to its end. Behind each style sheet the disk is the one that work on it without
a log leaves, with the notes on its outcome added to the file of the log: none if its report is
written, one if it failed, and two if the disk refused the report. Where no report goes to the file
of the log, this holds in the end what it held before, and behind that the notes on all style sheets
in their order. -/
theorem run_notes_failures {arguments : List Text} {world : World} {status : Nat}
    (returned : (run arguments world).1 = .ok (.exit status)) :
    ∃ options log paths entries begun outcomes last now,
      Options.ofArguments RunLog.defaultName arguments = .ok options ∧
      opening options world = (.ok (log, paths, entries), begun) ∧ outcomes.map Prod.fst = paths ∧
      Course options paths.length entries log begun outcomes last now ∧
      status = (if failures outcomes = 0 then 0 else 1) ∧ (run arguments world).2.disk = now.disk ∧
      (∀ before path outcome rest, outcomes = before ++ (path, outcome) :: rest →
        ∃ own start quiet next later,
        Course options paths.length entries log begun before own start ∧
          attemptQuietly options paths.length entries path start = (outcome.result, quiet) ∧
          log.Receives outcome.notes quiet.disk later.disk ∧
          Course options paths.length entries next later rest last now) ∧
      (world.disk.Sound → (∀ path ∈ paths, log.place world.disk.workFolder ∉
          reportPlaces options paths.length entries world.disk.workFolder path) →
        ∃ lines, AreAbout lines (outcomes.flatMap (·.2.notes)) ∧
          now.disk.held (log.place world.disk.workFolder) =
            world.disk.held (log.place world.disk.workFolder) ++
            Text.Utf8.encode lines.flatten) := by
  obtain ⟨options, log, paths, entries, begun, outcomes, last, now, parsed, opened, all, course⟩ :=
    exists_course_of_run returned
  obtain ⟨ended, disk⟩ := run_of_course parsed opened course all
  have same : begun.disk = world.disk := by rw [← onlyLooks_opening options world, opened]
  refine ⟨options, log, paths, entries, begun, outcomes, last, now, parsed, opened, all, course, ?_,
    disk, ?_, ?_⟩
  · cases returned.symm.trans ended
    rfl
  · rintro before path outcome rest rfl
    obtain ⟨own, next, start, after, later, passed, attempted, origin, settled, remaining⟩ :=
      split_course course
    obtain ⟨quiet, ran, receives⟩ := receives_of_settle attempted origin settled
    exact ⟨own, start, quiet, next, later, passed, ran,
      receives.of_file (file_of_course passed), remaining⟩
  · intro sound unlogged
    rw [← same] at sound unlogged ⊢
    refine held_of_course course sound rfl fun item member => ?_
    exact unlogged item.1 (all ▸ List.mem_map_of_mem member)

/-- The disk of the style sheet, with a folder where its report should go. -/
def blockedDisk (report : Text) : Disk :=
  ⟨.folder [(sheetName, .file (Text.Utf8.encode bareComment)), (report, .folder [])], []⟩

def blockedWorld : World := ⟨blockedDisk "x.complexity.json".toList, [], [], []⟩

/-- A style sheet that is missing, and one whose report the disk refuses. -/
theorem run_notes_failures_blocked :
    (run mixedArguments blockedWorld).1 = .ok (.exit 1) ∧
      ∃ begun outcomes last now lines,
        opening mixedOptions blockedWorld = (.ok (mixedLog, mixedPaths, mixedEntries), begun) ∧
        outcomes.map Prod.fst = mixedPaths ∧
        Course mixedOptions 2 mixedEntries mixedLog begun outcomes last now ∧
        AreAbout lines (outcomes.flatMap (·.2.notes)) ∧
        (run mixedArguments blockedWorld).2.disk.held [RunLog.defaultName] =
          Text.Utf8.encode lines.flatten := by
  have returned : (run mixedArguments blockedWorld).1 = .ok (.exit 1) :=
    eq_ok_of_toOption (by decide +kernel)
  refine ⟨returned, ?_⟩
  obtain ⟨_, _, _, _, begun, outcomes, last, now, parsed, opened, all, course, -, disk, -, held⟩ :=
    run_notes_failures returned
  obtain rfl : _ = mixedOptions := (Except.ok.inj parsed).symm
  obtain ⟨same, rfl⟩ := Prod.mk.inj opened
  cases same
  obtain ⟨lines, about, grown⟩ := held ⟨_, rfl⟩ (by decide +kernel)
  rw [disk]
  exact ⟨_, outcomes, last, now, lines, rfl, all, course, about, grown⟩

/-- The same for the report on the only style sheet of a run, at some moment. -/
def refusedWorld : World :=
  ⟨blockedDisk Writer.standardName, [], [], "2024-01-02 03:04:05.678901".toList⟩

/-- One style sheet fails, as the disk refuses its report, and the log has two entries about it. -/
theorem entries_of_refused_report :
    (run [sheetName] refusedWorld).1 = .ok (.exit 1) ∧
      ((run [sheetName] refusedWorld).2.disk.readText (Path.ofText RunLog.defaultName)).toOption.map
        RunLog.entries =
        some (List.replicate 2
          ("ERROR".toList,
            "IsADirectoryError: [Errno 21] Is a directory: 'complexity.json'".toList)) :=
  ⟨eq_ok_of_toOption (by decide +kernel), by decide +kernel⟩

end Cli
end StyleScore
