import Mathlib.Data.List.Lattice
import Mathlib.Data.List.Pairwise
import StyleScore.Proofs.Agreement
import StyleScore.Proofs.Cli.Course

/-!
The style sheets of a run do not disturb one another. What a run writes for a style sheet depends on
the path and the contents of that style sheet alone, one that has no report leaves no trace but in
the log, and the exit status says whether all reports were written (`run_isolates`). This holds
where no two reports share a place and where the file of the log takes every note: a run whose log
cannot be written ends at the first failure (`run_ends_with_log`).
-/
namespace StyleScore

namespace Cli
open StyleScore.Action

section Places

variable (options : Options) (count : Nat) (labels : List (Path × Text)) (home : List Text)

/-- Where the page on a style sheet goes, if one is asked for. -/
def pagePath? (path : Path) : Option Path :=
  ((pageName options count (labelOf labels path)).filter (· ≠ [])).map Path.ofText

/-- The places of the files that are written for a style sheet. -/
def reportPlaces (path : Path) : List (List Text) :=
  (dataPath options count labels path ::
    (pagePath? options count labels path).toList).map (Path.placeFrom home)

/-- The place that a style sheet is read from. -/
def inputPlace (path : Path) : List Text := (Path.ofText path.text).placeFrom home

/-- The reports of a run go to different places, none of them that of a style sheet or of the
log. -/
structure Apart (log : RunLog) (paths : List Path) : Prop where
  distinct : (paths.flatMap (reportPlaces options count labels home)).Nodup
  inputs : ∀ path ∈ paths, inputPlace home path ∉
    paths.flatMap (reportPlaces options count labels home)
  log : log.place home ∉ paths.flatMap (reportPlaces options count labels home)

/-- The places where a run with these outcomes may have changed a file: that of the log, and those
of the reports on the style sheets that have one. -/
def Touched (log : RunLog) (outcomes : List (Path × Outcome)) (place : List Text) : Prop :=
  place = log.place home ∨
    ∃ item ∈ outcomes, item.2.report?.isSome = true ∧
      place ∈ reportPlaces options count labels home item.1

end Places

/-- What a run leaves on the disk for each style sheet, from the disk before it, the disk after it
and the outcomes. -/
structure Isolated (options : Options) (count : Nat) (labels : List (Path × Text)) (log : RunLog)
    (before after : Disk) (outcomes : List (Path × Outcome)) : Prop where
  /-- The data of a written report comes from the path and the contents of the style sheet. These
  are what the disk had before, unless the style sheet is the file of the log. -/
  reported : ∀ path report, (path, .reported report) ∈ outcomes → ∃ bytes json,
    Report.ofContents path.text bytes = .ok report ∧ report.toValue.toJson = .ok json ∧
      after.read (dataPath options count labels path) = .ok (Text.Utf8.encode json.indented) ∧
      (inputPlace before.workFolder path ≠ log.place before.workFolder →
        before.tree.get? (inputPlace before.workFolder path) = some (.file bytes))
  /-- Where the report on a style sheet would go that has none, the files are what they were. -/
  unscored : ∀ path e, (path, .unscored e) ∈ outcomes →
    ∀ place ∈ reportPlaces options count labels before.workFolder path,
    ∀ bytes, after.tree.get? place = some (.file bytes) ↔
      before.tree.get? place = some (.file bytes)
  /-- No other file comes or changes. -/
  others : before.Keeps (Touched options count labels before.workFolder log outcomes) after

section Step

variable {options : Options} {count : Nat} {labels : List (Path × Text)} {home : List Text}
    {log next : RunLog}
  {world after later : World} {path : Path} {outcome : Outcome}

theorem dataPath_eq_outputPath (options : Options) (count : Nat) (labels : List (Path × Text))
    (log : RunLog) (path : Path) :
    dataPath options count labels path =
      (Writer.create none (some log)).outputPath (outputName options count (labelOf labels path)) :=
  rfl

theorem dataPlace_mem (options : Options) (count : Nat) (labels : List (Path × Text))
    (home : List Text) (path : Path) :
    (dataPath options count labels path).placeFrom home ∈
      reportPlaces options count labels home path :=
  List.mem_cons_self ..

theorem reportPlaces_of_asked {name : Text}
    (asked : (pageName options count (labelOf labels path)).filter (· ≠ []) = some name) :
    reportPlaces options count labels home path =
      [(dataPath options count labels path).placeFrom home, (Path.ofText name).placeFrom home] := by
  rw [reportPlaces, pagePath?, asked]
  rfl

theorem pagePlace_mem {name : Text}
    (asked : (pageName options count (labelOf labels path)).filter (· ≠ []) = some name) :
    (Path.ofText name).placeFrom home ∈ reportPlaces options count labels home path := by
  rw [reportPlaces_of_asked asked]
  exact List.mem_cons_of_mem _ (List.mem_singleton_self _)

theorem confined_publish (home : List Text) (writer : Writer) (output html : Option Text)
    (report : Report) :
    Confined home (fun place => writer.MayChange home (writer.outputPath output) place ∨
      ∃ name, html.filter (· ≠ []) = some name ∧ writer.MayChange home (Path.ofText name) place)
      (publish writer output html report) := by
  refine ((writer.confined_writeData home report.toValue output).mono fun _ own => .inl own).bind
    fun _ => ?_
  split
  · exact (onlyLooks_pure report).confined
  · next name asked =>
    refine (onlyLooks_ofExcept report.render).confined.bind fun page => ?_
    refine Confined.bind ?_ fun _ => (onlyLooks_pure report).confined
    exact (writer.confined_writeAs home page name).mono fun _ own => .inr ⟨name, asked, own⟩

/-- What was published can be read where the data goes. -/
theorem read_of_publish {writer : Writer} {output html : Option Text} {report other : Report}
    (sound : world.disk.Sound) (atHome : world.disk.workFolder = home)
    (published : publish writer output html report world = (.ok other, after))
    (unshown : ∀ name, html.filter (· ≠ []) = some name →
      ¬ writer.MayChange home (Path.ofText name) ((writer.outputPath output).placeFrom home)) :
    ∃ json, report.toValue.toJson = .ok json ∧
      after.disk.read (writer.outputPath output) = .ok (Text.Utf8.encode json.indented) := by
  obtain ⟨_, between, written, rest⟩ := Action.bind_eq_ok.1 published
  obtain ⟨text, start, spelled, saved⟩ := Action.bind_eq_ok.1 written
  obtain ⟨worded, rfl⟩ := ofExcept_eq_ok.1 spelled
  obtain ⟨json, form, rfl⟩ := map_eq_ok.1 worded
  obtain ⟨taken, disk⟩ := writer.saved_of_saveText saved
  obtain ⟨keeps, there⟩ := Disk.save_spec sound (writer.outputPath output) json.indented
  rw [← disk] at keeps there
  refine ⟨json, form, ?_⟩
  cases asked : html.filter (· ≠ []) with
  | none =>
    rw [asked] at rest
    cases rest
    exact there taken
  | some name =>
    rw [asked] at rest
    obtain ⟨page, same, rendered, shows⟩ := Action.bind_eq_ok.1 rest
    obtain rfl := (ofExcept_eq_ok.1 rendered).2
    obtain ⟨_, _, shown, ended⟩ := Action.bind_eq_ok.1 shows
    cases ended
    have keepsToo :=
      writer.confined_writeAs home page name same (keeps.sound sound) (keeps.home.trans atHome)
    rw [shown] at keepsToo
    refine keepsToo.read_eq (keeps.sound sound) ?_ (there taken)
    rw [Disk.destination_eq, keeps.home, atHome]
    exact unshown name asked

/-- Work on a style sheet changes the files of its reports and the file of the log, and none where
there is no report. -/
theorem keeps_attemptOn (sound : world.disk.Sound) (atHome : world.disk.workFolder = home)
    (attempted : attemptOn options count labels log path world = (outcome.result, after))
    (origin : (Report.ofFile world.disk path).toOption = outcome.report?) :
    world.disk.Keeps (Touched options count labels home log [(path, outcome)]) after.disk := by
  obtain ⟨between, same, ran⟩ := attemptOn_eq_ofFile options count labels log path world
  have ended : after = (attemptOn options count labels log path world).2 := by rw [attempted]
  rw [ended, ran]
  cases made : Report.ofFile world.disk path with
  | error e =>
    change world.disk.Keeps _ between.disk
    rw [same]
    exact Disk.Keeps.refl _ _
  | ok report =>
    have present : outcome.report?.isSome = true := by
      rw [← origin, made]
      rfl
    have own {place : List Text} (member : place ∈ reportPlaces options count labels home path) :
        Touched options count labels home log [(path, outcome)] place :=
      .inr ⟨(path, outcome), List.mem_singleton_self _, present, member⟩
    have noted {target : Path}
        (member : target.placeFrom home ∈ reportPlaces options count labels home path)
        {place : List Text} : (Writer.create none (some log)).MayChange home target place →
          Touched options count labels home log [(path, outcome)] place := by
      rintro (rfl | ⟨other, written, rfl⟩)
      · exact own member
      · obtain rfl : log = other := Option.some.inj written
        exact .inl rfl
    rw [← same] at sound atHome ⊢
    refine (confined_publish home _ _ _ report between sound atHome).mono ?_
    rintro place (data | ⟨name, asked, page⟩)
    · exact noted (dataPlace_mem options count labels home path) data
    · exact noted (pagePlace_mem asked) page

theorem confined_noteFailure (home : List Text) (log : RunLog) (path : Path) (e : Error) :
    Confined home (· = log.place home) (noteFailure log path e) :=
  (onlyLooks_record _ _ _).confined.bind fun _ => log.confined_writeError home e

theorem confined_settle (home : List Text) (log : RunLog) (path : Path)
    (result : Except Error Report) :
    Confined home (· = log.place home) (settle log path result) := by
  cases result with
  | ok report => exact (RunLog.onlyLooks_toConsole log _).confined
  | error e =>
    exact (confined_noteFailure home log path e).bind fun _ => (onlyLooks_pure log).confined

theorem Touched.mono {outcomes more : List (Path × Outcome)} (within : outcomes ⊆ more)
    {place : List Text} (touched : Touched options count labels home log outcomes place) :
    Touched options count labels home log more place := by
  rcases touched with log | ⟨item, member, present, own⟩
  · exact .inl log
  · exact .inr ⟨item, within member, present, own⟩

theorem place_of_file (same : next.file = log.file) : next.place home = log.place home := by
  rw [RunLog.place, RunLog.place, same]

theorem Touched.of_file (same : next.file = log.file) {outcomes : List (Path × Outcome)}
    {place : List Text} (touched : Touched options count labels home next outcomes place) :
    Touched options count labels home log outcomes place :=
  touched.imp_left fun own => own.trans (place_of_file same)

/-- What follows on work on a style sheet changes no more than the log and what the rest of the run
changes. -/
theorem keeps_of_settle {now : World} {result : Except Error Report}
    {outcomes : List (Path × Outcome)} (sound : after.disk.Sound)
    (atHome : after.disk.workFolder = home)
    (settled : settle log path result after = (.ok next, later))
    (rest : later.disk.Sound → later.disk.workFolder = home →
      later.disk.Keeps (Touched options count labels home next outcomes) now.disk) :
    after.disk.Keeps (Touched options count labels home log outcomes) now.disk := by
  have first := confined_settle home log path result after sound atHome
  rw [settled] at first
  have second := rest (first.sound sound) (first.home.trans atHome)
  exact (first.mono fun _ own => .inl own).trans
    (second.mono fun _ => Touched.of_file (file_of_settle settled))

end Step

section Run

variable {options : Options} {count : Nat} {labels : List (Path × Text)} {home : List Text}
    {log last : RunLog}
  {world now : World} {outcomes : List (Path × Outcome)}

/-- A run changes the files of the reports that it makes and the file of its log, and no others. -/
theorem keeps_course (course : Course options count labels log world outcomes last now)
    (sound : world.disk.Sound) (atHome : world.disk.workFolder = home) :
    world.disk.Keeps (Touched options count labels home log outcomes) now.disk := by
  induction course with
  | start log world => exact Disk.Keeps.refl _ _
  | @next log next last world after later now path outcome outcomes attempted origin mild settled
    rest induction =>
    have first := keeps_attemptOn sound atHome attempted origin
    have second := keeps_of_settle (first.sound sound) (first.home.trans atHome) settled induction
    exact (first.mono fun _ => Touched.mono (by simp)).trans
      (second.mono fun _ => Touched.mono (by simp))

/-- The data that is written for a style sheet is that of its report, and can be read when work on
it is done. -/
theorem read_of_attemptOn {path : Path} {report : Report} {after : World} (sound : world.disk.Sound)
    (atHome : world.disk.workFolder = home)
    (distinct : (reportPlaces options count labels home path).Nodup)
    (unlogged : log.place home ∉ reportPlaces options count labels home path)
    (attempted : attemptOn options count labels log path world = (.ok report, after)) :
    ∃ json, report.toValue.toJson = .ok json ∧
      after.disk.read (dataPath options count labels path) =
        .ok (Text.Utf8.encode json.indented) := by
  obtain ⟨between, same, ran⟩ := attemptOn_eq_ofFile options count labels log path world
  obtain ⟨made, _, origin, published⟩ := Action.bind_eq_ok.1 (ran.symm.trans attempted)
  obtain ⟨-, rfl⟩ := ofExcept_eq_ok.1 origin
  obtain rfl := eq_of_publish _ _ _ (congrArg Prod.fst published)
  rw [← same] at sound atHome
  have own := dataPath_eq_outputPath options count labels log path
  rw [own]
  refine read_of_publish sound atHome published ?_
  rw [← own]
  rintro name asked (shared | ⟨other, written, shared⟩)
  · rw [reportPlaces_of_asked asked, shared] at distinct
    exact absurd distinct (by simp)
  · obtain rfl : log = other := Option.some.inj written
    rw [← shared] at unlogged
    exact unlogged (dataPlace_mem options count labels home path)

/-- Reports on different style sheets go to different places. -/
theorem disjoint_places (apart : Apart options count labels home log (outcomes.map Prod.fst)) :
    outcomes.Pairwise fun item other =>
      (reportPlaces options count labels home item.1).Disjoint
        (reportPlaces options count labels home other.1) := by
  have distinct := apart.distinct
  rw [List.flatMap_map] at distinct
  exact (List.nodup_flatMap.1 distinct).2

theorem mem_places {path : Path} {outcome : Outcome} {place : List Text}
    (member : (path, outcome) ∈ outcomes)
    (own : place ∈ reportPlaces options count labels home path) :
    place ∈ (outcomes.map Prod.fst).flatMap (reportPlaces options count labels home) :=
  List.mem_flatMap.2 ⟨path, List.mem_map_of_mem member, own⟩

/-- A style sheet that is not the log is not touched. -/
theorem not_touched_input (apart : Apart options count labels home log (outcomes.map Prod.fst))
    {path : Path} (member : path ∈ outcomes.map Prod.fst)
    (unlogged : inputPlace home path ≠ log.place home) :
    ¬ Touched options count labels home log outcomes (inputPlace home path) := by
  rintro (same | ⟨item, memberToo, -, own⟩)
  · exact unlogged same
  · exact apart.inputs path member (mem_places memberToo own)

/-- What was written for a style sheet is not touched by work on those behind it. -/
theorem not_touched_rest {before rest : List (Path × Outcome)} {path : Path} {outcome : Outcome}
    (apart : Apart options count labels home log ((before ++ (path, outcome) :: rest).map Prod.fst))
    {place : List Text} (own : place ∈ reportPlaces options count labels home path) :
    ¬ Touched options count labels home log rest place := by
  rintro (rfl | ⟨item, member, -, ownToo⟩)
  · exact apart.log (mem_places (List.mem_append_right before List.mem_cons_self) own)
  · have behind := (List.pairwise_append.1 (disjoint_places apart)).2.1
    exact (List.pairwise_cons.1 behind).1 item member own ownToo

/-- What would be written for a style sheet without a report is not touched at all. -/
theorem not_touched_unscored (apart : Apart options count labels home log (outcomes.map Prod.fst))
    {path : Path} {e : Error} (member : (path, .unscored e) ∈ outcomes) {place : List Text}
    (own : place ∈ reportPlaces options count labels home path) :
    ¬ Touched options count labels home log outcomes place := by
  rintro (rfl | ⟨item, memberToo, present, ownToo⟩)
  · exact apart.log (mem_places member own)
  · have differs : (path, Outcome.unscored e) ≠ item := by
      rintro rfl
      cases present
    have symmetric : Std.Symm fun item other : Path × Outcome =>
        (reportPlaces options count labels home item.1).Disjoint
          (reportPlaces options count labels home other.1) :=
      ⟨fun _ _ disjoint => disjoint.symm⟩
    exact (disjoint_places apart).forall member memberToo differs own ownToo

theorem isolated_of_course (course : Course options count labels log world outcomes last now)
    (sound : world.disk.Sound)
    (apart : Apart options count labels world.disk.workFolder log (outcomes.map Prod.fst)) :
    Isolated options count labels log world.disk now.disk outcomes where
  reported := by
    intro path report member
    have distinct := (List.nodup_flatMap.1 apart.distinct).1 path (List.mem_map_of_mem member)
    have listed : path ∈ outcomes.map Prod.fst := List.mem_map_of_mem member
    obtain ⟨before, rest, rfl⟩ := List.append_of_mem member
    obtain ⟨own, next, between, after, later, passed, attempted, origin, settled, remaining⟩ :=
      split_course course
    have sameFile := file_of_course passed
    -- Three stretches: up to the style sheet, work on it, and the rest of the run.
    have first := keeps_course passed sound rfl
    have second := keeps_attemptOn (first.sound sound) first.home attempted origin
    have third :=
      keeps_of_settle (second.sound (first.sound sound)) (second.home.trans first.home) settled
        (keeps_course remaining)
    obtain ⟨bytes, held, contents⟩ := Report.exists_contents_of_ofFile (eq_ok_of_toOption origin)
    have unlogged : own.place world.disk.workFolder ∉
        reportPlaces options count labels world.disk.workFolder path := by
      intro shared
      rw [place_of_file sameFile] at shared
      exact apart.log (mem_places member shared)
    obtain ⟨json, form, written⟩ :=
      read_of_attemptOn (first.sound sound) first.home distinct unlogged attempted
    refine ⟨bytes, json, contents, form, ?_, ?_⟩
    · refine third.read_eq (second.sound (first.sound sound)) (fun touched => ?_) written
      rw [Disk.destination_eq, second.home, first.home] at touched
      exact not_touched_rest apart (dataPlace_mem options count labels _ path)
        (touched.of_file sameFile)
    · intro noLog
      have there := Disk.get?_destination_of_read (first.sound sound) held
      rw [Disk.destination_eq, first.home] at there
      refine first.noneNew _ _ (fun touched => ?_) there
      exact not_touched_input apart listed noLog (touched.mono (List.subset_append_left ..))
  unscored := by
    intro path e member place own bytes
    exact (keeps_course course sound rfl).get?_eq_file_iff
      (not_touched_unscored apart member own) bytes
  others := keeps_course course sound rfl

end Run

/-- A run over style sheets whose reports go to places of their own, where every failure is one that
a run survives and the file of the log takes a note of each. Every path gets its outcome, and the
exit status is 1 if a report is missing and 0 otherwise. The data written for a style sheet is
determined by its path and its contents, whatever the others are and however they fail, and a style
sheet that cannot be read, parsed or scored leaves every report as it was. -/
theorem run_isolates {arguments : List Text} {options : Options} {world begun : World}
    {log : RunLog} {paths : List Path} {entries : List (Path × Text)}
    (parsed : Options.ofArguments RunLog.defaultName arguments = .ok options)
    (opened : opening options world = (.ok (log, paths, entries), begun)) (sound : world.disk.Sound)
    (apart : Apart options paths.length entries world.disk.workFolder log paths)
    (mild : EveryFailure options paths.length entries log begun paths
      fun _ _ e _ => e.isSurvivable = true)
    (noted : EveryFailure options paths.length entries log begun paths fun log path e after =>
      (noteFailure log path e after).1 = .ok ()) :
    ∃ outcomes last now, outcomes.map Prod.fst = paths ∧
      Course options paths.length entries log begun outcomes last now ∧
      (run arguments world).1 = .ok (.exit (if outcomes.all (·.2.isReported) then 0 else 1)) ∧
      Isolated options paths.length entries log world.disk (run arguments world).2.disk
        outcomes := by
  obtain ⟨outcomes, last, now, rfl, course⟩ := exists_course mild noted
  obtain ⟨status, disk⟩ := run_of_course parsed opened course rfl
  have same : begun.disk = world.disk := by rw [← onlyLooks_opening options world, opened]
  refine ⟨outcomes, last, now, rfl, course, ?_, ?_⟩
  · simp only [status, failures_eq_zero_iff]
  · rw [← same] at sound apart
    rw [disk, ← same]
    exact isolated_of_course course sound apart

end Cli

/-- What a file holds is reported on as its text is. -/
theorem Report.ofContents_encode {source css : Text} {report : Report} (solid : css ≠ [])
    (made : Web.report source css = .ok report) :
    ofContents source (Text.Utf8.encode css) = .ok report := by
  unfold ofContents
  rw [Text.Utf8.decode_encode]
  dsimp only
  rw [if_neg (Text.plainLineEnds_ne_nil solid), Rule.ofText_plainLineEnds]
  cases read : Rule.ofText css with
  | error e => cases (Web.report_of_error source read).symm.trans made
  | ok pair => exact (Web.report_of_ok source read).symm.trans made

namespace Cli

/-- One style sheet that is missing and one that is there. -/
def mixedArguments : List Text := ["missing.css".toList, sheetName]

def mixedOptions : Options := ⟨mixedArguments, none, none, some RunLog.defaultName, false⟩

def mixedPaths : List Path := [relativePath ["missing.css"], relativePath ["x.css"]]

def mixedEntries : List (Path × Text) :=
  [(relativePath ["missing.css"], "missing".toList), (relativePath ["x.css"], "x".toList)]

def mixedWorld : World := ⟨loneSheet bareComment, [], [], []⟩

/-- What the run shows first. -/
def mixedBanner : Text := RunLog.banner (some []) "CSS Complexity Weights".toList

def mixedBegun : World := { mixedWorld with journal := [⟨.info, .console, mixedBanner⟩] }

/-- A log that was just opened. -/
def openedLog (file : Path) : RunLog :=
  ⟨file, some mixedBanner, some (Binary64.zero false).thousandfold, none⟩

def mixedLog : RunLog := openedLog (relativePath ["log.txt"])

/-- The disk with a note in the file of the log. -/
def notedDisk (note : List UInt8) : Disk :=
  ⟨.folder [(sheetName, .file (Text.Utf8.encode bareComment)),
    (RunLog.defaultName, .file note)], []⟩

theorem attemptOn_missing (options : Options) (log : RunLog) :
    ∃ after, after.disk = loneSheet bareComment ∧
      attemptOn options 2 mixedEntries log (relativePath ["missing.css"]) mixedBegun =
        (.error (.unreadable "missing.css".toList), after) := by
  obtain ⟨after, same, ran⟩ :=
    attemptOn_eq_ofFile options 2 mixedEntries log (relativePath ["missing.css"]) mixedBegun
  exact ⟨after, same, ran⟩

theorem exists_note {world : World} (same : world.disk = loneSheet bareComment) (path : Path)
    (e : Error) :
    ∃ note later, later.disk = notedDisk note ∧
      noteFailure mixedLog path e world = (.ok (), later) := by
  obtain ⟨disk, journal, clock, now⟩ := world
  cases same
  exact ⟨_, _, rfl, rfl⟩

/-- The style sheet that is there has its report written. -/
theorem exists_attemptOn_sheet {world : World} {note : List UInt8}
    (same : world.disk = notedDisk note) :
    ∃ report after, attemptOn mixedOptions 2 mixedEntries mixedLog (relativePath ["x.css"]) world =
      (.ok report, after) := by
  obtain ⟨report, made, json, form⟩ := report_bareComment
  have page : report.render = .ok report.page := by
    cases Web.writing_of_report made with
    | complete _ page => exact page
    | refused refused _ => cases refused.symm.trans form
  obtain ⟨between, kept, ran⟩ :=
    attemptOn_eq_ofFile mixedOptions 2 mixedEntries mixedLog (relativePath ["x.css"]) world
  rw [same] at kept ran
  have origin : Report.ofFile (notedDisk note) (relativePath ["x.css"]) = .ok report :=
    Report.ofContents_encode (by decide) made
  have sound : between.disk.Sound := by
    rw [kept]
    exact ⟨_, rfl⟩
  have takes : Takes between.disk (Writer.create none (some mixedLog))
      (outputName mixedOptions 2 (labelOf mixedEntries (relativePath ["x.css"]))) none report := by
    rw [kept]
    intro json _
    refine ⟨rfl, ?_⟩
    intro name asked
    cases asked
  obtain ⟨after, published, -⟩ := publish_of_takes sound form page takes
  rw [origin] at ran
  exact ⟨report, after, ran.trans published⟩

theorem opening_mixed :
    opening mixedOptions mixedWorld = (.ok (mixedLog, mixedPaths, mixedEntries), mixedBegun) := rfl

theorem apart_mixed : Apart mixedOptions 2 mixedEntries [] mixedLog mixedPaths :=
  ⟨by decide +kernel, by decide +kernel, by decide +kernel⟩

/-- The only failure of the run is that of the style sheet that is missing. -/
theorem everyFailure_mixed {holds : RunLog → Path → Error → World → Prop}
    (missing : ∀ after, after.disk = loneSheet bareComment →
      holds mixedLog (relativePath ["missing.css"]) (.unreadable "missing.css".toList) after) :
    EveryFailure mixedOptions 2 mixedEntries mixedLog mixedBegun mixedPaths holds := by
  obtain ⟨after, same, attempted⟩ := attemptOn_missing mixedOptions mixedLog
  refine everyFailure_cons attempted ?_ ?_
  · rintro e ⟨⟩
    exact missing after same
  · intro next later settled
    obtain ⟨rfl, noted⟩ := noteFailure_of_settle settled
    obtain ⟨note, other, disk, notedToo⟩ :=
      exists_note same (relativePath ["missing.css"]) (.unreadable "missing.css".toList)
    obtain ⟨-, rfl⟩ := Prod.mk.inj (noted.symm.trans notedToo)
    obtain ⟨report, ended, written⟩ := exists_attemptOn_sheet disk
    refine everyFailure_cons written ?_ fun _ _ _ => everyFailure_nil
    rintro e ⟨⟩

theorem run_isolates_mixed :
    (Options.ofArguments RunLog.defaultName mixedArguments = .ok mixedOptions ∧
      opening mixedOptions mixedWorld = (.ok (mixedLog, mixedPaths, mixedEntries), mixedBegun) ∧
      mixedWorld.disk.Sound ∧ Apart mixedOptions 2 mixedEntries [] mixedLog mixedPaths) ∧
    ∃ outcomes last now, outcomes.map Prod.fst = mixedPaths ∧
      Course mixedOptions 2 mixedEntries mixedLog mixedBegun outcomes last now ∧
      (run mixedArguments mixedWorld).1 =
        .ok (.exit (if outcomes.all (·.2.isReported) then 0 else 1)) ∧
      Isolated mixedOptions 2 mixedEntries mixedLog mixedWorld.disk
        (run mixedArguments mixedWorld).2.disk outcomes := by
  have sound : mixedWorld.disk.Sound := ⟨_, rfl⟩
  refine ⟨⟨rfl, opening_mixed, sound, apart_mixed⟩, ?_⟩
  refine run_isolates rfl opening_mixed sound apart_mixed (everyFailure_mixed fun _ _ => rfl)
    (everyFailure_mixed ?_)
  intro after same
  obtain ⟨_, _, -, noted⟩ :=
    exists_note same (relativePath ["missing.css"]) (.unreadable "missing.css".toList)
  rw [noted]

/-- The same style sheets, with a log in a folder that is not there. -/
def refusedArguments : List Text := mixedArguments ++ ["--log-file".toList, "no/dir.log".toList]

def refusedOptions : Options := { mixedOptions with logFile := some "no/dir.log".toList }

def refusedLog : RunLog := openedLog (relativePath ["no", "dir.log"])

theorem exists_refusal {world : World} (same : world.disk = loneSheet bareComment) (path : Path)
    (e : Error) :
    ∃ later, later.disk = loneSheet bareComment ∧
      noteFailure refusedLog path e world =
        (.error (.file .noSuchFile "/no/dir.log".toList), later) := by
  obtain ⟨disk, journal, clock, now⟩ := world
  cases same
  refine ⟨_, ?_, rfl⟩
  rfl

/-- A run whose log cannot be written ends at the first style sheet that fails, though a run
survives that failure, and the style sheets behind it are not worked on. -/
theorem run_ends_with_log :
    Options.ofArguments RunLog.defaultName refusedArguments = .ok refusedOptions ∧
      opening refusedOptions mixedWorld = (.ok (refusedLog, mixedPaths, mixedEntries), mixedBegun) ∧
      mixedWorld.disk.Sound ∧ Apart refusedOptions 2 mixedEntries [] refusedLog mixedPaths ∧
      (EveryFailure refusedOptions 2 mixedEntries refusedLog mixedBegun mixedPaths
        fun _ _ e _ => e.isSurvivable = true) ∧
      (run refusedArguments mixedWorld).1 = .error (.file .noSuchFile "/no/dir.log".toList) ∧
      (run refusedArguments mixedWorld).2.disk = mixedWorld.disk := by
  have parsed : Options.ofArguments RunLog.defaultName refusedArguments = .ok refusedOptions :=
    eq_ok_of_toOption (by decide +kernel)
  have opened : opening refusedOptions mixedWorld =
      (.ok (refusedLog, mixedPaths, mixedEntries), mixedBegun) := rfl
  obtain ⟨after, same, attempted⟩ := attemptOn_missing refusedOptions refusedLog
  obtain ⟨later, sameToo, refused⟩ :=
    exists_refusal same (relativePath ["missing.css"]) (.unreadable "missing.css".toList)
  have course : Course refusedOptions 2 mixedEntries refusedLog mixedBegun [] refusedLog
      mixedBegun := .start _ _
  obtain ⟨ended, disk⟩ := run_of_refused parsed opened course rfl attempted rfl refused
  refine ⟨parsed, opened, ⟨_, rfl⟩, ⟨by decide +kernel, by decide +kernel, by decide +kernel⟩, ?_,
    ended, disk.trans sameToo⟩
  refine everyFailure_cons attempted ?_ ?_
  · rintro e ⟨⟩
    rfl
  · intro next other settled
    cases refused.symm.trans (noteFailure_of_settle settled).2

end Cli
end StyleScore
