import StyleScore.Proofs.Cli.Output
import StyleScore.Proofs.Stopping
import StyleScore.Proofs.World.Confined

/-!
What becomes of each style sheet of a run. Whether a style sheet has a report depends on the disk
alone (`analyze_eq_ofFile`), and a run that can note every failure comes to its end with one outcome
for each path (`exists_course`, `run_of_course`). A run ends at a failure that its log does not take
(`run_of_refused`).
-/
namespace StyleScore

namespace Report

/-- The report on the contents of a file with the name `source`. -/
def ofContents (source : Text) (bytes : List UInt8) : Except Error Report :=
  match Text.Utf8.decode bytes with
  | .error fault => .error (.badText fault)
  | .ok text =>
    if Text.plainLineEnds text = [] then .error (.unreadable source)
    else match Rule.ofText (Text.plainLineEnds text) with
      | .error _ => .error (.unparsable source)
      | .ok (rules, _) => ofRules source rules

/-- The report on the file that a disk has under a path. -/
def ofFile (disk : Disk) (path : Path) : Except Error Report :=
  if path.text = [] then .error .noFileName
  else match disk.read (Path.ofText path.text) with
    | .ok bytes => ofContents path.text bytes
    | .error (.file _ _) => .error (.unreadable path.text)
    | .error e => .error e

/-- A report is one on contents that the disk has. -/
theorem exists_contents_of_ofFile {disk : Disk} {path : Path} {report : Report}
    (made : ofFile disk path = .ok report) :
    ∃ bytes, disk.read (Path.ofText path.text) = .ok bytes ∧
      ofContents path.text bytes = .ok report := by
  unfold ofFile at made
  split at made
  · cases made
  · split at made
    · next bytes held => exact ⟨bytes, held, made⟩
    · cases made
    · cases made

theorem writing_of_ofFile {disk : Disk} {path : Path} {report : Report}
    (made : ofFile disk path = .ok report) : report.Writing := by
  obtain ⟨bytes, -, made⟩ := exists_contents_of_ofFile made
  unfold ofContents at made
  split at made
  · cases made
  · split at made
    · cases made
    · split at made
      · cases made
      · exact (writing_of_ofRules made).1

end Report

namespace Disk

variable {disk : Disk} {path : Path}

theorem readText_of_decode {bytes : List UInt8} {text : Text} (held : disk.read path = .ok bytes)
    (good : Text.Utf8.decode bytes = .ok text) :
    disk.readText path = .ok (Text.plainLineEnds text) :=
  bind_eq_ok.2 ⟨bytes, held, by rw [good]⟩

theorem readText_of_fault {bytes : List UInt8} {fault : Text.Utf8.Fault}
    (held : disk.read path = .ok bytes) (bad : Text.Utf8.decode bytes = .error fault) :
    disk.readText path = .error (.badText fault) :=
  bind_eq_error.2 (.inr ⟨bytes, held, by rw [bad]⟩)

theorem readText_of_error {e : Error} (failed : disk.read path = .error e) :
    disk.readText path = .error e :=
  bind_eq_error.2 (.inl failed)

end Disk

namespace Reader
open StyleScore.Action

theorem load_of_file_error {name : Text} {world : World} {cause : FileCause} {path : Text}
    (named : name ≠ [])
    (unread : world.disk.readText (Path.ofText name) = .error (.file cause path)) :
    ∃ after, after.disk = world.disk ∧
      (ofFile (some name)).load world = (.ok (none, ofFile (some name)), after) := by
  have looked := attempt_inspect (fun disk => disk.readText (Path.ofText name)) world
  rw [unread] at looked
  have nothing : ∃ after, after.disk = world.disk ∧
      contents (some name) world = (.ok none, after) := by
    unfold contents
    rw [nonempty_some named]
    refine ⟨_, ?_, bind_of_ok looked⟩
    rfl
  obtain ⟨after, kept, nothing⟩ := nothing
  exact ⟨after, kept, bind_attempt nothing⟩

theorem load_of_other_error {name : Text} {world : World} {e : Error} (named : name ≠ [])
    (unread : world.disk.readText (Path.ofText name) = .error e)
    (other : ∀ cause path, e ≠ .file cause path) :
    ∃ after, after.disk = world.disk ∧ (ofFile (some name)).load world = (.error e, after) := by
  have looked := attempt_inspect (fun disk => disk.readText (Path.ofText name)) world
  rw [unread] at looked
  have failed : contents (some name) world = (.error e, world) := by
    unfold contents
    rw [nonempty_some named]
    dsimp only
    rw [bind_of_ok looked]
    cases e with
    | file cause path => exact absurd rfl (other cause path)
    | _ => rfl
  refine ⟨_, ?_, bind_attempt failed⟩
  rfl

theorem load_of_unnamed (world : World) :
    ∃ after, after.disk = world.disk ∧
      (ofFile (some [])).load world = (.error .noFileName, after) := by
  refine ⟨_, ?_, rfl⟩
  rfl

end Reader

namespace Cli
open StyleScore.Action

section Analyzing

variable {world : World} {path : Path} {e : Error} (writer : Writer) (output html : Option Text)

/-- A style sheet is worked on in two parts: its report is made from what the disk has, and then it
is published. -/
theorem analyze_eq_ofFile (world : World) (path : Path) :
    ∃ after, after.disk = world.disk ∧ ∀ writer output html,
      analyze writer path output html world =
        (Action.ofExcept (Report.ofFile world.disk path) >>= publish writer output html) after := by
  have unread {e : Error} (failed : ∃ after, after.disk = world.disk ∧
      (Reader.ofFile (some path.text)).load world = (.error e, after)) :
      ∃ after, after.disk = world.disk ∧ ∀ writer output html,
        analyze writer path output html world =
          (Action.ofExcept (.error e) >>= publish writer output html) after := by
    obtain ⟨after, kept, failed⟩ := failed
    exact ⟨after, kept, fun _ _ _ => bind_of_error failed⟩
  have textless {text : Option Text} (loaded : ∃ after, after.disk = world.disk ∧
      (Reader.ofFile (some path.text)).load world =
      (.ok (text, Reader.ofFile (some path.text)), after)) :
      ∃ after, after.disk = world.disk ∧ ∀ writer output html,
        analyze writer path output html world =
          (Action.ofExcept (.error (.unreadable path.text)) >>=
            publish writer output html) after := by
    obtain ⟨after, kept, loaded⟩ := loaded
    exact ⟨after, kept, fun _ _ _ => bind_of_ok loaded⟩
  unfold Report.ofFile
  split
  case isTrue unnamed =>
    apply unread
    rw [unnamed]
    exact Reader.load_of_unnamed world
  case isFalse named =>
    split
    · next bytes held =>
      unfold Report.ofContents
      split
      · next fault bad =>
        exact unread (Reader.load_of_other_error named (Disk.readText_of_fault held bad)
          fun _ _ => Error.noConfusion)
      · next text good =>
        have read := Disk.readText_of_decode held good
        split
        · next empty =>
          rw [empty] at read
          exact textless ⟨world, rfl, Reader.load_of_readText named read⟩
        · next solid =>
          obtain ⟨after, kept, ran⟩ := analyze_of_reads ⟨named, solid, read⟩
          refine ⟨after, kept, fun writer output html => (ran writer output html).trans ?_⟩
          unfold reportOn
          cases Rule.ofText (Text.plainLineEnds text) with
          | error cause => rfl
          | ok pair => rfl
    · next cause name failed =>
      exact textless (Reader.load_of_file_error named (Disk.readText_of_error failed))
    · next e other failed =>
      exact unread (Reader.load_of_other_error named (Disk.readText_of_error failed) other)

/-- What is published is the report, if it is published. -/
theorem eq_of_publish {report other : Report}
    (published : (publish writer output html report world).1 = .ok other) : other = report := by
  cases ran : publish writer output html report world with
  | mk result after =>
    rw [ran] at published
    obtain rfl : result = .ok other := published
    obtain ⟨_, _, -, ran⟩ := Action.bind_eq_ok.1 ran
    cases asked : html.filter (· ≠ []) with
    | none =>
      rw [asked] at ran
      cases ran
      rfl
    | some name =>
      rw [asked] at ran
      obtain ⟨_, _, -, ran⟩ := Action.bind_eq_ok.1 ran
      obtain ⟨_, _, -, ran⟩ := Action.bind_eq_ok.1 ran
      cases ran
      rfl

end Analyzing

/-- What becomes of a style sheet in a run. -/
inductive Outcome where
  /-- Its report is written. -/
  | reported (report : Report)
  /-- It has a report, but writing that failed. -/
  | unwritten (report : Report) (e : Error)
  /-- Reading, parsing or scoring it failed. -/
  | unscored (e : Error)

namespace Outcome

def result : Outcome → Except Error Report
  | reported report => .ok report
  | unwritten _ e => .error e
  | unscored e => .error e

def report? : Outcome → Option Report
  | reported report => some report
  | unwritten report _ => some report
  | unscored _ => none

def isReported : Outcome → Bool
  | reported _ => true
  | _ => false

end Outcome

/-- What a run does when it has worked on a style sheet: it shows a line about the report, or it
notes the failure. -/
def settle (log : RunLog) (path : Path) : Except Error Report → Action RunLog
  | .ok report => log.toConsole (summaryLine path report)
  | .error e => do
    noteFailure log path e
    return log

/-- A run gets past style sheets one after another, each with its outcome. -/
inductive Course (options : Options) (count : Nat) (labels : List (Path × Text)) :
    RunLog → World → List (Path × Outcome) → RunLog → World → Prop where
  | start (log : RunLog) (world : World) : Course options count labels log world [] log world
  | next {log next last : RunLog} {world after later now : World} {path : Path} {outcome : Outcome}
      {outcomes : List (Path × Outcome)}
      (attempted : attemptOn options count labels log path world = (outcome.result, after))
      (origin : (Report.ofFile world.disk path).toOption = outcome.report?)
      (mild : ∀ e, outcome.result = .error e → e.isSurvivable = true)
      (settled : settle log path outcome.result after = (.ok next, later))
      (rest : Course options count labels next later outcomes last now) :
      Course options count labels log world ((path, outcome) :: outcomes) last now

/-- The number of style sheets without a written report. -/
def failures (outcomes : List (Path × Outcome)) : Nat :=
  outcomes.countP fun item => !item.2.isReported

theorem failures_eq_zero_iff (outcomes : List (Path × Outcome)) :
    failures outcomes = 0 ↔ outcomes.all (·.2.isReported) = true := by
  simp [failures, List.countP_eq_zero]

section Course

variable {options : Options} {count : Nat} {labels : List (Path × Text)} {log last : RunLog}
    {world now : World}

theorem attemptOn_eq_ofFile (options : Options) (count : Nat) (labels : List (Path × Text))
    (log : RunLog) (path : Path) (world : World) :
    ∃ between, between.disk = world.disk ∧ attemptOn options count labels log path world =
      (Action.ofExcept (Report.ofFile world.disk path) >>= publish (Writer.create none (some log))
        (outputName options count (labelOf labels path))
        (pageName options count (labelOf labels path))) between := by
  obtain ⟨between, same, ran⟩ := analyze_eq_ofFile world path
  exact ⟨between, same, ran _ _ _⟩

/-- Every attempt at a style sheet is one of the outcomes. -/
theorem exists_outcome {path : Path} {result : Except Error Report} {after : World}
    (attempted : attemptOn options count labels log path world = (result, after)) :
    ∃ outcome : Outcome, outcome.result = result ∧
      (Report.ofFile world.disk path).toOption = outcome.report? := by
  obtain ⟨between, -, ran⟩ := attemptOn_eq_ofFile options count labels log path world
  have published := ran.symm.trans attempted
  cases made : Report.ofFile world.disk path with
  | error e =>
    rw [made] at published
    obtain ⟨rfl, -⟩ := Prod.mk.inj published
    exact ⟨.unscored e, rfl, rfl⟩
  | ok report =>
    rw [made] at published
    cases result with
    | error e => exact ⟨.unwritten report e, rfl, rfl⟩
    | ok other =>
      obtain rfl := eq_of_publish _ _ _ (congrArg Prod.fst published)
      exact ⟨.reported other, rfl, rfl⟩

theorem noteFailure_of_settle {path : Path} {e : Error} {next : RunLog} {after later : World}
    (settled : settle log path (.error e) after = (.ok next, later)) :
    next = log ∧ noteFailure log path e after = (.ok (), later) := by
  obtain ⟨_, _, noted, same⟩ := Action.bind_eq_ok.1 settled
  cases same
  exact ⟨rfl, noted⟩

theorem analyzeAll_of_noted {path : Path} {paths : List Path} {e : Error} {after later : World}
    {count' : Nat} (failure : attemptOn options count labels log path world = (.error e, after))
    (mild : e.isSurvivable = true) (noted : noteFailure log path e after = (.ok (), later))
    (rest : analyzeAll options count labels log paths later = (.ok (last, count'), now)) :
    analyzeAll options count labels log (path :: paths) world = (.ok (last, count' + 1), now) := by
  rw [analyzeAll_of_mild paths failure mild, bind_of_ok noted, bind_of_ok rest]
  rfl

/-- Whatever its course, a run works on all style sheets and counts those without a report. -/
theorem analyzeAll_of_course {outcomes : List (Path × Outcome)}
    (course : Course options count labels log world outcomes last now) :
    analyzeAll options count labels log (outcomes.map Prod.fst) world =
      (.ok (last, failures outcomes), now) := by
  induction course with
  | start log world => rfl
  | @next log next last world after later now path outcome outcomes attempted origin mild settled
    rest induction =>
    cases outcome with
    | reported report =>
      obtain ⟨_, _, shown, goesOn⟩ := analyzeAll_of_ok (outcomes.map Prod.fst) attempted
      cases shown.symm.trans settled
      exact goesOn.trans induction
    | unwritten report e =>
      obtain ⟨rfl, noted⟩ := noteFailure_of_settle settled
      rw [failures, List.countP_cons_of_pos rfl]
      exact analyzeAll_of_noted attempted (mild e rfl) noted induction
    | unscored e =>
      obtain ⟨rfl, noted⟩ := noteFailure_of_settle settled
      rw [failures, List.countP_cons_of_pos rfl]
      exact analyzeAll_of_noted attempted (mild e rfl) noted induction

/-- A run that gets past its style sheets has a course. -/
theorem exists_course_of_analyzeAll {paths : List Path} {missing : Nat}
    (ended : analyzeAll options count labels log paths world = (.ok (last, missing), now)) :
    ∃ outcomes, outcomes.map Prod.fst = paths ∧
      Course options count labels log world outcomes last now := by
  induction paths generalizing log world missing with
  | nil =>
    cases ended
    exact ⟨[], rfl, .start _ _⟩
  | cons path paths induction =>
    cases attempted : attemptOn options count labels log path world with
    | mk result after =>
      obtain ⟨outcome, rfl, origin⟩ := exists_outcome attempted
      cases result : outcome.result with
      | ok report =>
        rw [result] at attempted
        obtain ⟨next, later, shown, goesOn⟩ := analyzeAll_of_ok paths attempted
        obtain ⟨outcomes, rfl, course⟩ := induction (goesOn.symm.trans ended)
        rw [← result] at attempted
        refine ⟨(path, outcome) :: outcomes, rfl, .next attempted origin ?_ ?_ course⟩
        · intro e failed
          cases result.symm.trans failed
        · rw [result]
          exact shown
      | error e =>
        rw [result] at attempted
        cases mild : e.isSurvivable with
        | false => cases (analyzeAll_of_fatal paths attempted mild).symm.trans ended
        | true =>
          rw [analyzeAll_of_mild paths attempted mild] at ended
          obtain ⟨_, later, noted, ended⟩ := Action.bind_eq_ok.1 ended
          obtain ⟨_, _, rest, same⟩ := Action.bind_eq_ok.1 ended
          cases same
          obtain ⟨outcomes, rfl, course⟩ := induction rest
          rw [← result] at attempted
          refine ⟨(path, outcome) :: outcomes, rfl, .next attempted origin ?_ ?_ course⟩
          · intro other failed
            obtain rfl := Except.error.inj (result.symm.trans failed)
            exact mild
          · rw [result]
            exact bind_of_ok noted

/-- Where the rest of a run ends early, the run does. -/
theorem analyzeAll_append_of_error {before : List (Path × Outcome)} {rest : List Path} {e : Error}
    {later : World} (course : Course options count labels log world before last now)
    (ends : analyzeAll options count labels last rest now = (.error e, later)) :
    analyzeAll options count labels log (before.map Prod.fst ++ rest) world =
      (.error e, later) := by
  induction course with
  | start log world => exact ends
  | @next log next last world after between now path outcome before attempted origin mild settled
    course induction =>
    rw [List.map_cons, List.cons_append]
    cases result : outcome.result with
    | ok report =>
      rw [result] at attempted settled
      obtain ⟨_, _, shown, goesOn⟩ := analyzeAll_of_ok (before.map Prod.fst ++ rest) attempted
      cases shown.symm.trans settled
      exact goesOn.trans (induction ends)
    | error cause =>
      rw [result] at attempted settled
      obtain ⟨rfl, noted⟩ := noteFailure_of_settle settled
      rw [analyzeAll_of_mild _ attempted (mild cause result), bind_of_ok noted,
        bind_of_error (induction ends)]

/-- Whenever the run comes to a style sheet that fails, this holds of the log, the path, the error
and the world then. -/
def EveryFailure (options : Options) (count : Nat) (labels : List (Path × Text)) (log : RunLog)
    (world : World) (paths : List Path) (holds : RunLog → Path → Error → World → Prop) : Prop :=
  ∀ before path rest last now e after, paths = before.map Prod.fst ++ path :: rest →
    Course options count labels log world before last now →
    attemptOn options count labels last path now = (.error e, after) → holds last path e after

theorem everyFailure_nil {holds : RunLog → Path → Error → World → Prop} :
    EveryFailure options count labels log world [] holds := by
  intro before path rest last now e after impossible
  exact absurd impossible.symm (List.append_ne_nil_of_right_ne_nil _ (List.cons_ne_nil _ _))

/-- The failures of a run are that of its first style sheet, if it fails, and those of the rest. -/
theorem everyFailure_cons {path : Path} {paths : List Path} {result : Except Error Report}
    {after : World} {holds : RunLog → Path → Error → World → Prop}
    (attempted : attemptOn options count labels log path world = (result, after))
    (here : ∀ e, result = .error e → holds log path e after)
    (rest : ∀ next later, settle log path result after = (.ok next, later) →
      EveryFailure options count labels next later paths holds) :
    EveryFailure options count labels log world (path :: paths) holds := by
  intro before other others last now e ended same course failed
  cases course with
  | start =>
    obtain ⟨rfl, rfl⟩ := List.cons.inj same
    obtain ⟨failure, rfl⟩ := Prod.mk.inj (attempted.symm.trans failed)
    exact here e failure
  | @next _ next _ _ between later _ first outcome before attemptedToo origin mild settled course =>
    obtain ⟨rfl, behind⟩ := List.cons.inj same
    obtain ⟨rfl, rfl⟩ := Prod.mk.inj (attempted.symm.trans attemptedToo)
    exact rest next later settled before other others last now e ended behind course failed

/-- A run that survives its failures and can note each of them gets past all style sheets. -/
theorem exists_course {paths : List Path}
    (mild : EveryFailure options count labels log world paths fun _ _ e _ => e.isSurvivable = true)
    (noted : EveryFailure options count labels log world paths fun log path e after =>
      (noteFailure log path e after).1 = .ok ()) :
    ∃ outcomes last now, outcomes.map Prod.fst = paths ∧
      Course options count labels log world outcomes last now := by
  induction paths generalizing log world with
  | nil => exact ⟨[], log, world, rfl, .start log world⟩
  | cons path paths induction =>
    cases attempted : attemptOn options count labels log path world with
    | mk result after =>
      obtain ⟨outcome, rfl, origin⟩ := exists_outcome attempted
      have survives : ∀ e, outcome.result = .error e → e.isSurvivable = true := by
        intro e failed
        exact mild [] path paths log world e after rfl (.start log world) (by rw [attempted,
          failed])
      have settles : ∃ next later, settle log path outcome.result after = (.ok next, later) := by
        cases result : outcome.result with
        | ok report => exact ⟨_, _, rfl⟩
        | error e =>
          have fine :=
            noted [] path paths log world e after rfl (.start log world) (by rw [attempted, result])
          exact ⟨log, (noteFailure log path e after).2, bind_of_ok (Prod.ext fine rfl)⟩
      obtain ⟨next, later, settled⟩ := settles
      have tail {holds : RunLog → Path → Error → World → Prop}
          (every : EveryFailure options count labels log world (path :: paths) holds) :
          EveryFailure options count labels next later paths holds := by
        intro before other rest last now e after same course
        exact every ((path, outcome) :: before) other rest last now e after
          (congrArg (path :: ·) same) (.next attempted origin survives settled course)
      obtain ⟨outcomes, last, now, rfl, course⟩ := induction (tail mild) (tail noted)
      exact ⟨(path, outcome) :: outcomes, last, now, rfl,
        .next attempted origin survives settled course⟩

/-- The log of a run stays in its file. -/
theorem file_of_settle {path : Path} {result : Except Error Report} {next : RunLog}
    {after later : World} (settled : settle log path result after = (.ok next, later)) :
    next.file = log.file := by
  cases result with
  | ok report =>
    obtain ⟨_, _, -, same⟩ := Action.bind_eq_ok.1 settled
    cases same
    rfl
  | error e =>
    obtain ⟨rfl, -⟩ := noteFailure_of_settle settled
    rfl

theorem file_of_course {outcomes : List (Path × Outcome)}
    (course : Course options count labels log world outcomes last now) : last.file = log.file := by
  induction course with
  | start => rfl
  | next attempted origin mild settled rest induction =>
    exact induction.trans (file_of_settle settled)

/-- A run that gets past style sheets gets past those in front of any of them first. -/
theorem split_course {before rest : List (Path × Outcome)} {path : Path} {outcome : Outcome}
    (course : Course options count labels log world (before ++ (path, outcome) :: rest) last now) :
    ∃ own next between after later, Course options count labels log world before own between ∧
      attemptOn options count labels own path between = (outcome.result, after) ∧
      (Report.ofFile between.disk path).toOption = outcome.report? ∧
      settle own path outcome.result after = (.ok next, later) ∧
      Course options count labels next later rest last now := by
  induction before generalizing log world with
  | nil =>
    cases course with
    | next attempted origin mild settled rest =>
      exact ⟨log, _, world, _, _, .start log world, attempted, origin, settled, rest⟩
  | cons item before induction =>
    cases course with
    | next attempted origin mild settled course =>
      obtain ⟨own, next, between, after, later, passed, found⟩ := induction course
      exact ⟨own, next, between, after, later, .next attempted origin mild settled passed, found⟩

end Course

def openLog (options : Options) : Action RunLog :=
  match options.logFile with
  | some name => RunLog.create name
  | none => throw .wrongType

/-- What a run does before it comes to its style sheets: it opens its log, finds the paths and
labels them. -/
def opening (options : Options) : Action (RunLog × List Path × List (Path × Text)) := do
  let log ← openLog options
  let log ← log.startTimer
  let log ← log.toConsole (RunLog.banner (← get).now "CSS Complexity Weights".toList)
  let paths ← Action.inspect fun disk => disk.expand (options.paths.map Path.ofText)
  let labels ← Action.inspect fun disk => labels disk.workFolder paths
  return (log, paths, labels)

/-- What a run does when it is through. -/
def finish (count failures : Nat) (log : RunLog) : Action Nat := do
  let log ← log.endTimer
  let _ ← log.toConsole (endLine (count - failures) count log)
  return if failures = 0 then 0 else 1

theorem runWith_eq (options : Options) :
    runWith options = (do
      let (log, paths, labels) ← opening options
      let (log, failures) ← analyzeAll options paths.length labels log paths
      finish paths.length failures log) := by
  unfold runWith opening openLog finish
  cases options.logFile <;> simp only [bind_assoc, pure_bind]

section Run

variable {options : Options} {labels : List (Path × Text)} {log last : RunLog} {world now : World}
  {outcomes : List (Path × Outcome)}

theorem onlyLooks_openLog (options : Options) : OnlyLooks (openLog options) := by
  unfold openLog RunLog.create
  split
  · dsimp only
    split
    · exact onlyLooks_throw _
    · exact onlyLooks_pure _
  · exact onlyLooks_throw _

theorem onlyLooks_opening (options : Options) : OnlyLooks (opening options) := by
  have started (log : RunLog) : OnlyLooks log.startTimer :=
    onlyLooks_seconds.bind fun _ => onlyLooks_pure _
  refine (onlyLooks_openLog options).bind fun log => (started log).bind fun log =>
    onlyLooks_get.bind fun world => ?_
  refine (RunLog.onlyLooks_toConsole log _).bind fun log =>
    (onlyLooks_inspect _).bind fun paths => ?_
  exact (onlyLooks_inspect _).bind fun labels => onlyLooks_pure _

theorem finish_eq (count failures : Nat) (log : RunLog) (world : World) :
    ∃ after, after.disk = world.disk ∧
      finish count failures log world = (.ok (if failures = 0 then 0 else 1), after) := by
  obtain ⟨reading, between, same, looked⟩ := exists_seconds world
  have ended : log.endTimer world =
      (.ok { log with ended := some reading.thousandfold }, between) := bind_of_ok looked
  refine ⟨_, ?_, bind_of_ok ended⟩
  exact same

/-- How a run ends that gets past its style sheets. -/
theorem run_of_course {arguments : List Text} {paths : List Path} {start : World}
    (parsed : Options.ofArguments RunLog.defaultName arguments = .ok options)
    (opened : opening options start = (.ok (log, paths, labels), world))
    (course : Course options paths.length labels log world outcomes last now)
    (all : outcomes.map Prod.fst = paths) :
    (run arguments start).1 = .ok (.exit (if failures outcomes = 0 then 0 else 1)) ∧
      (run arguments start).2.disk = now.disk := by
  have worked := analyzeAll_of_course course
  rw [all] at worked
  obtain ⟨after, same, finished⟩ := finish_eq paths.length (failures outcomes) last now
  have whole : runWith options start = (.ok (if failures outcomes = 0 then 0 else 1), after) := by
    rw [runWith_eq, bind_of_ok opened]
    dsimp only
    rw [bind_of_ok worked]
    exact finished
  unfold run
  rw [parsed]
  dsimp only
  rw [whole]
  exact ⟨rfl, same⟩

/-- A run that comes to its end has a course. -/
theorem exists_course_of_run {arguments : List Text} {status : Nat} {start : World}
    (returned : (run arguments start).1 = .ok (.exit status)) :
    ∃ options log paths labels world outcomes last now,
      Options.ofArguments RunLog.defaultName arguments = .ok options ∧
      opening options start = (.ok (log, paths, labels), world) ∧ outcomes.map Prod.fst = paths ∧
      Course options paths.length labels log world outcomes last now := by
  unfold run at returned
  split at returned
  · cases returned
  · cases returned
  · next options parsed =>
    cases ran : runWith options start with
    | mk result after =>
      rw [ran] at returned
      cases result with
      | error e => cases returned
      | ok own =>
        rw [runWith_eq] at ran
        obtain ⟨⟨log, paths, labels⟩, world, opened, ran⟩ := Action.bind_eq_ok.1 ran
        obtain ⟨⟨last, missing⟩, now, ended, -⟩ := Action.bind_eq_ok.1 ran
        obtain ⟨outcomes, all, course⟩ := exists_course_of_analyzeAll ended
        exact ⟨options, log, paths, labels, world, outcomes, last, now, parsed, opened, all, course⟩

/-- A run that comes to a failure which its log does not take ends there. -/
theorem run_of_refused {arguments : List Text} {paths rest : List Path} {start : World}
    {path : Path} {e cause : Error} {after later : World}
    (parsed : Options.ofArguments RunLog.defaultName arguments = .ok options)
    (opened : opening options start = (.ok (log, paths, labels), world))
    (course : Course options paths.length labels log world outcomes last now)
    (whole : paths = outcomes.map Prod.fst ++ path :: rest)
    (failed : attemptOn options paths.length labels last path now = (.error e, after))
    (mild : e.isSurvivable = true)
    (refused : noteFailure last path e after = (.error cause, later)) :
    (run arguments start).1 = .error cause ∧ (run arguments start).2.disk = later.disk := by
  have ends :=
    analyzeAll_append_of_error course
      ((analyzeAll_of_mild rest failed mild).trans (bind_of_error refused))
  rw [← whole] at ends
  have ran : runWith options start = (.error cause, later) := by
    rw [runWith_eq, bind_of_ok opened]
    exact bind_of_error ends
  unfold run
  rw [parsed]
  dsimp only
  rw [ran]
  exact ⟨rfl, rfl⟩

end Run
end Cli
end StyleScore
