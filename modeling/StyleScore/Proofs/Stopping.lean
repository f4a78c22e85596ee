import StyleScore.Cli.Run
import StyleScore.Proofs.Report.Figures
import StyleScore.Proofs.Report.Outcome
import StyleScore.Proofs.World.Reading
import StyleScore.Web

/-!
What a failure of scoring does to those who wait for the report. A request is answered with an inner
error exactly when scoring stumbles, the mean of the complexities is too large, or a number of the
score has too many digits to be written. Every other failure is answered with its message. A run
over style sheets stops before the remaining ones in the first two cases alone, unless it survives
the error.
-/
namespace StyleScore

/-- The errors of writing a report: those of files, and that of a number with too many digits. -/
def Error.isOfWriting : Error → Bool
  | overlongInteger => true
  | e => e.isOfFiles

theorem Error.isOfWriting_of_isOfFiles {e : Error} (ofFiles : e.isOfFiles = true) :
    e.isOfWriting = true := by
  cases e <;> simp_all [isOfFiles, isOfWriting]

theorem Error.isSurvivable_of_isOfWriting {e : Error} (ofWriting : e.isOfWriting = true) :
    e.isSurvivable = true := by
  cases e <;> simp_all [isOfWriting, isOfFiles, isSurvivable, isAnnounced]

theorem Error.isSurvivable_of_isAnnounced {e : Error} (announced : e.isAnnounced = true) :
    e.isSurvivable = true := by
  cases e <;> simp_all [isAnnounced, isSurvivable]

/-- The report on a style sheet with these rules cannot be made, for an error that is not
announced. -/
def Report.IsUnmade (rules : List Rule) (e : Error) : Prop :=
  Score.Stumbles rules e ∨
    (e = .overflow ∧ ∃ score, (Forest.ofRules rules).score (some Forest.root) = .ok score ∧
      Overflows score)

/-- The report on a style sheet with these rules fails with an error that is not announced: it
cannot be made, or it can be made and not be written. -/
def Report.FailsSilently (rules : List Rule) (e : Error) : Prop :=
  IsUnmade rules e ∨
    (e = .overlongInteger ∧ ∃ score, (Forest.ofRules rules).score (some Forest.root) = .ok score ∧
      ¬Overflows score ∧ score.Exceeds)

/-- The report on the rules of a style sheet. -/
def Report.ofRules (source : Text) (rules : List Rule) : Except Error Report := do
  ofScore source (← (Forest.ofRules rules).score (some Forest.root))

theorem Report.ofRules_eq_error_iff (source : Text) (rules : List Rule) (e : Error) :
    ofRules source rules = .error e ∧ e.isAnnounced = false ↔ IsUnmade rules e := by
  rw [IsUnmade, ← Score.score_unannounced_iff, ofRules, bind_eq_error]
  constructor
  · rintro ⟨unscored | ⟨score, scored, failure⟩, unannounced⟩
    · exact .inl ⟨unscored, unannounced⟩
    · rcases ofScore_cases source score with ⟨report, success, -⟩ | ⟨overflow, overflows⟩
      · cases success.symm.trans failure
      · obtain rfl := Except.error.inj (overflow.symm.trans failure)
        exact .inr ⟨rfl, score, scored, overflows⟩
  · rintro (⟨unscored, unannounced⟩ | ⟨rfl, score, scored, overflows⟩)
    · exact ⟨.inl unscored, unannounced⟩
    · rcases ofScore_cases source score with ⟨report, -, fine⟩ | ⟨overflow, -⟩
      · exact absurd overflows fine
      · exact ⟨.inr ⟨score, scored, overflow⟩, rfl⟩

theorem Report.isOfRules_of_ofRules {source : Text} {rules : List Rule} {e : Error}
    (failed : ofRules source rules = .error e) : e.isOfRules = true ∨ e = .overflow := by
  rcases bind_eq_error.1 failed with unscored | ⟨score, -, failure⟩
  · exact .inl (Score.isOfRules_of_score unscored)
  · rcases ofScore_cases source score with ⟨report, success, -⟩ | ⟨overflow, -⟩
    · cases success.symm.trans failure
    · exact .inr (Except.error.inj (failure.symm.trans overflow))

theorem Report.exists_ofRules {rules : List Rule} {score : Score} (source : Text)
    (scored : (Forest.ofRules rules).score (some Forest.root) = .ok score)
    (fine : ¬Overflows score) :
    ∃ report, ofRules source rules = .ok report := by
  rcases ofScore_cases source score with ⟨report, made, -⟩ | ⟨-, overflows⟩
  · exact ⟨report, bind_eq_ok.2 ⟨score, scored, made⟩⟩
  · exact absurd overflows fine

/-- How a report can be written: in both forms, or in neither for a number with too many digits. -/
inductive Report.Writing (report : Report) : Prop where
  | complete (data : report.toValue.HasJson) (page : report.render = .ok report.page)
  | refused (data : report.toValue.toJson = .error .overlongInteger)
      (page : report.render = .error .overlongInteger)

/-- A report on rules can be written exactly when it does not fail silently. -/
theorem Report.writing_of_ofRules {source : Text} {rules : List Rule} {report : Report}
    (success : ofRules source rules = .ok report) :
    report.Writing ∧ (report.toValue.HasJson ↔ ¬∃ e, FailsSilently rules e) := by
  obtain ⟨score, scored, made⟩ := bind_eq_ok.1 success
  obtain ⟨short, long⟩ := written_of_ofScore made
  have fine : ¬Overflows score := by
    rcases ofScore_cases source score with ⟨_, -, fine⟩ | ⟨overflow, -⟩
    · exact fine
    · cases overflow.symm.trans made
  have silent : (∃ e, FailsSilently rules e) ↔ score.Exceeds := by
    constructor
    · rintro ⟨e, unmade | ⟨-, other, same, -, exceeds⟩⟩
      · cases success.symm.trans ((ofRules_eq_error_iff source rules e).2 unmade).1
      · rwa [Except.ok.inj (scored.symm.trans same)]
    · intro exceeds
      exact ⟨_, .inr ⟨rfl, score, scored, fine, exceeds⟩⟩
  rw [silent]
  by_cases exceeds : score.Exceeds
  · obtain ⟨data, page⟩ := long exceeds
    refine ⟨.refused data page, ?_, fun short => absurd exceeds short⟩
    rintro ⟨json, written⟩
    cases data.symm.trans written
  · obtain ⟨data, page⟩ := short exceeds
    exact ⟨.complete data page, fun _ => exceeds, fun _ => data⟩

namespace Web

theorem response_of_complete (form : Form) {report : Report} (data : report.toValue.HasJson)
    (page : report.render = .ok report.page) :
    ∃ response, form.response report = .ok response ∧ response.status = 200 := by
  cases form with
  | data =>
    obtain ⟨json, written⟩ := data
    exact ⟨_, by rw [Form.response, written]; rfl, rfl⟩
  | page => exact ⟨_, by rw [Form.response, page]; rfl, rfl⟩

theorem response_of_refused (form : Form) {report : Report}
    (data : report.toValue.toJson = .error .overlongInteger)
    (page : report.render = .error .overlongInteger) :
    form.response report = .error .overlongInteger := by
  cases form with
  | data =>
    rw [Form.response, data]
    rfl
  | page =>
    rw [Form.response, page]
    rfl

/-- A text that can be read is answered with an inner error exactly when its report fails
silently. -/
theorem status_of_report (form : Form) (source : Text) (rules : List Rule) :
    (match Report.ofRules source rules with
      | .ok report =>
        match form.response report with
        | .ok response => response
        | .error _ => bareResponse 500
      | .error e =>
      if e.isAnnounced then errorResponse 422 (e.message?.getD []) else bareResponse 500).status =
      500 ↔
      ∃ e, Report.FailsSilently rules e := by
  have fails := Report.ofRules_eq_error_iff source rules
  cases result : Report.ofRules source rules with
  | ok report =>
    obtain ⟨writing, written⟩ := Report.writing_of_ofRules result
    cases writing with
    | complete data page =>
      obtain ⟨response, success, status⟩ := response_of_complete form data page
      simp only [success, status, written.1 data]
      decide
    | refused data page =>
      have silent : ∃ e, Report.FailsSilently rules e := by
        by_contra fine
        obtain ⟨json, form⟩ := written.2 fine
        cases data.symm.trans form
      simp only [response_of_refused form data page, silent, iff_true]
      rfl
  | error e =>
    dsimp only
    split
    · next announced =>
      constructor
      · intro impossible
        cases impossible
      · rintro ⟨other, unmade | ⟨-, score, scored, fine, -⟩⟩
        · obtain ⟨failure, unannounced⟩ := (fails other).2 unmade
          obtain rfl := Except.error.inj (result.symm.trans failure)
          cases announced.symm.trans unannounced
        · obtain ⟨report, made⟩ := Report.exists_ofRules source scored fine
          cases result.symm.trans made
    · next unannounced =>
      rw [Bool.not_eq_true] at unannounced
      exact ⟨fun _ => ⟨e, .inl ((fails e).1 ⟨result, unannounced⟩)⟩, fun _ => rfl⟩

theorem report_of_ok {css : Text} {rules : List Rule} {notes : List Note} (source : Text)
    (read : Rule.ofText css = .ok (rules, notes)) :
    report source css = Report.ofRules source rules := by
  rw [report, read]
  rfl

/-- A style sheet is answered with an inner error exactly when it can be read and its report fails
silently. -/
theorem status_respondToSheet_iff (form : Form) (request : Request) :
    (respondToSheet form request).status = 500 ↔
      ∃ css source rules notes e, request.sheet = .ok (css, source) ∧ css.trim ≠ [] ∧
        Rule.ofText css = .ok (rules, notes) ∧ Report.FailsSilently rules e := by
  unfold respondToSheet
  cases sent : request.sheet with
  | error e => simp [errorResponse, dataResponse]
  | ok pair =>
    obtain ⟨css, source⟩ := pair
    by_cases blank : css.trim = []
    · simp [blank, errorResponse, dataResponse]
    · cases read : Rule.ofText css with
      | error e => simp [blank, report, read, Error.isAnnounced, errorResponse, dataResponse]
      | ok pair =>
        obtain ⟨rules, notes⟩ := pair
        simp only [blank, if_false, report_of_ok source read]
        refine (status_of_report form source rules).trans ⟨?_, ?_⟩
        · rintro ⟨e, silent⟩
          exact ⟨css, source, rules, notes, e, rfl, blank, read, silent⟩
        · rintro ⟨_, _, _, _, e, same, -, readToo, silent⟩
          obtain ⟨rfl, rfl⟩ := Prod.mk.inj (Except.ok.inj same)
          obtain ⟨rfl, rfl⟩ := Prod.mk.inj (Except.ok.inj (read.symm.trans readToo))
          exact ⟨e, silent⟩

end Web

namespace Cli
open StyleScore.Action

/-- The disk has the text `css` under a path. -/
def Reads (world : World) (path : Path) (css : Text) : Prop :=
  path.text ≠ [] ∧ css ≠ [] ∧ world.disk.readText (Path.ofText path.text) = .ok css

/-- What is done with a report: it is written as data, and as a page where one is asked for. -/
def publish (writer : Writer) (output html : Option Text) (report : Report) : Action Report := do
  let _ ← writer.writeData report.toValue output
  match html.filter (· ≠ []) with
  | none => return report
  | some html =>
    let page ← Action.ofExcept report.render
    let _ ← writer.writeAs (.text page) (some html)
    return report

theorem writeData_of_toJson {report : Report} {json : Json}
    (form : report.toValue.toJson = .ok json) (writer : Writer) (output : Option Text) :
    writer.writeData report.toValue output =
      writer.saveText (writer.outputPath output) json.indented := by
  have text : report.toValue.plain.jsonText = .ok json.indented := by
    change report.toValue.toJson.map Json.indented = _
    rw [form]
    rfl
  unfold Writer.writeData
  rw [text]
  rfl

theorem publish_of_refused {report : Report}
    (data : report.toValue.toJson = .error .overlongInteger) (writer : Writer)
    (output html : Option Text) (world : World) :
    publish writer output html report world = (.error .overlongInteger, world) := by
  have failure : report.toValue.plain.jsonText = .error .overlongInteger := by
    change report.toValue.toJson.map Json.indented = _
    rw [data]
    rfl
  exact bind_of_error (writer.writeData_of_error failure output world)

theorem publish_of_complete {report : Report} {json : Json}
    (form : report.toValue.toJson = .ok json) (page : report.render = .ok report.page)
    (writer : Writer) (output html : Option Text) :
    publish writer output html report = (do
      let _ ← writer.saveText (writer.outputPath output) json.indented
      match html.filter (· ≠ []) with
      | none => return report
      | some html =>
        let _ ← writer.writeAs (.text report.page) (some html)
        return report) := by
  unfold publish
  rw [writeData_of_toJson form, page]
  rfl

theorem failsOnly_publish {writer : Writer} {output html : Option Text} {report : Report}
    (writing : report.Writing) :
    FailsOnly Error.isOfWriting (publish writer output html report) := by
  cases writing with
  | refused data page =>
    intro world e failure
    rw [publish_of_refused data] at failure
    rw [← Except.error.inj failure]
    rfl
  | complete data page =>
    obtain ⟨json, form⟩ := data
    have saved (path : Path) (text : Text) :
        FailsOnly Error.isOfWriting (writer.saveText path text) :=
      fun world e failure => Error.isOfWriting_of_isOfFiles
        (writer.failsOnly_saveText path text world e failure)
    rw [publish_of_complete form page]
    refine (saved _ _).bind fun _ => ?_
    split
    · exact failsOnly_pure report
    · next name _ =>
      have shown : FailsOnly Error.isOfWriting
          (writer.writeAs (.text report.page) (some name)) := by
        unfold Writer.writeAs
        split
        · exact failsOnly_throw rfl
        · split
          · exact failsOnly_throw rfl
          · exact saved _ _
      exact shown.bind fun _ => failsOnly_pure report

/-- What is done with the text of a style sheet. -/
def reportOn (writer : Writer) (path : Path) (output html : Option Text) (css : Text) :
    Action Report :=
  match Rule.ofText css with
  | .error _ => throw (.unparsable path.text)
  | .ok (rules, _) =>
    Action.ofExcept (Report.ofRules path.text rules) >>= publish writer output html

theorem analyze_of_reads {path : Path} {world : World} {css : Text} (reads : Reads world path css) :
    ∃ after, after.disk = world.disk ∧ ∀ writer output html,
      analyze writer path output html world = reportOn writer path output html css after := by
  obtain ⟨named, solid, read⟩ := reads
  have loaded := Reader.load_of_readText named read
  rw [Reader.setText_of_ne _ solid] at loaded
  unfold analyze reportOn
  simp only [bind_of_ok loaded, Option.isNone_some, Bool.false_eq_true, if_false]
  cases parsed : Rule.ofText css with
  | error e =>
    obtain ⟨reader, after, kept, sheet⟩ := Reader.sheet_of_error (some path.text) world parsed
    exact ⟨after, kept, fun _ _ _ => bind_of_ok sheet⟩
  | ok pair =>
    obtain ⟨rules, notes⟩ := pair
    obtain ⟨reader, after, kept, sheet⟩ := Reader.sheet_of_ok (some path.text) world parsed
    simp only [bind_of_ok sheet]
    have scored := Forest.fst_scoreAloud (Forest.ofRules rules) (some Forest.root) after
    have same := Forest.disk_scoreAloud (Forest.ofRules rules) (some Forest.root) after
    cases ran : (Forest.ofRules rules).scoreAloud (some Forest.root) after with
    | mk result later =>
      rw [ran] at scored same
      dsimp only at scored same
      unfold Report.ofRules
      rw [← scored]
      cases result with
      | error e =>
        refine ⟨later, same.trans kept, fun writer output html => ?_⟩
        rw [bind_of_error ran]
        rfl
      | ok score =>
        refine ⟨later, same.trans kept, fun writer output html => ?_⟩
        rw [bind_of_ok ran]
        rfl

theorem analyze_of_not_reads {path : Path} {world : World} {e : Error} (writer : Writer)
    (output html : Option Text) (unread : ∀ css, ¬Reads world path css)
    (failure : (analyze writer path output html world).1 = .error e) : e.isSurvivable = true := by
  have textless {text : Option Text} {after : World} :
      (Reader.ofFile (some path.text)).load world =
        (.ok (text, Reader.ofFile (some path.text)), after) →
        e.isSurvivable = true := by
    intro loaded
    unfold analyze at failure
    rw [bind_of_ok loaded] at failure
    rw [← Except.error.inj failure]
    rfl
  by_cases found : ∃ css, path.text ≠ [] ∧ world.disk.readText (Path.ofText path.text) = .ok css
  · obtain ⟨css, named, read⟩ := found
    -- The text is empty, and an empty text is not kept.
    have empty : css = [] := Classical.byContradiction fun solid => unread css ⟨named, solid, read⟩
    subst empty
    exact textless (Reader.load_of_readText named read)
  · rcases Reader.load_of_not_readText fun css given => found ⟨css, given⟩ with
      ⟨after, loaded⟩ | ⟨other, after, failed, mild⟩
    · exact textless loaded
    · unfold analyze at failure
      rw [bind_of_error failed] at failure
      rwa [← Except.error.inj failure]

theorem reportOn_unsurvivable_iff (writer : Writer) (path : Path) (output html : Option Text)
    (css : Text) (world : World) (e : Error) :
    (reportOn writer path output html css world).1 = .error e ∧ e.isSurvivable = false ↔
      ∃ rules notes, Rule.ofText css = .ok (rules, notes) ∧ Report.FailsSilently rules e ∧
        e.isSurvivable = false := by
  unfold reportOn
  cases read : Rule.ofText css with
  | error cause =>
    constructor
    · rintro ⟨failure, fatal⟩
      rw [← Except.error.inj failure] at fatal
      cases fatal
    · rintro ⟨_, _, impossible, -⟩
      cases impossible
  | ok pair =>
    obtain ⟨rules, notes⟩ := pair
    have fails := Report.ofRules_eq_error_iff path.text rules e
    dsimp only
    constructor
    · rintro ⟨failure, fatal⟩
      have unannounced : e.isAnnounced = false := by
        cases announced : e.isAnnounced with
        | false => rfl
        | true => exact absurd (Error.isSurvivable_of_isAnnounced announced) (by simp [fatal])
      refine ⟨rules, notes, rfl, .inl (fails.1 ⟨?_, unannounced⟩), fatal⟩
      cases result : Report.ofRules path.text rules with
      | error other =>
        rw [result] at failure
        exact congrArg Except.error (Except.error.inj failure)
      | ok report =>
        rw [result] at failure
        have ofWriting := failsOnly_publish (Report.writing_of_ofRules result).1 world e failure
        cases (Error.isSurvivable_of_isOfWriting ofWriting).symm.trans fatal
    · rintro ⟨_, _, same, unmade | ⟨rfl, -⟩, fatal⟩
      · obtain ⟨rfl, rfl⟩ := Prod.mk.inj (Except.ok.inj same)
        refine ⟨?_, fatal⟩
        rw [(fails.2 unmade).1]
        rfl
      · cases fatal

/-- One style sheet stops a run exactly when the disk has it, it can be read, and its report fails
silently with an error that a run does not survive. -/
theorem analyze_unsurvivable_iff (writer : Writer) (path : Path) (output html : Option Text)
    (world : World) (e : Error) :
    (analyze writer path output html world).1 = .error e ∧ e.isSurvivable = false ↔
      ∃ css rules notes, Reads world path css ∧ Rule.ofText css = .ok (rules, notes) ∧
        Report.FailsSilently rules e ∧ e.isSurvivable = false := by
  constructor
  · rintro ⟨failure, fatal⟩
    by_cases found : ∃ css, Reads world path css
    · obtain ⟨css, reads⟩ := found
      obtain ⟨after, -, same⟩ := analyze_of_reads reads
      rw [same] at failure
      obtain ⟨rules, notes, rest⟩ := (reportOn_unsurvivable_iff ..).1 ⟨failure, fatal⟩
      exact ⟨css, rules, notes, reads, rest⟩
    · have mild :=
        analyze_of_not_reads writer output html (fun css reads => found ⟨css, reads⟩) failure
      cases mild.symm.trans fatal
  · rintro ⟨css, rules, notes, reads, rest⟩
    obtain ⟨after, -, same⟩ := analyze_of_reads reads
    rw [same]
    exact (reportOn_unsurvivable_iff ..).2 ⟨rules, notes, rest⟩

/-- The work on one style sheet of a run. -/
def attemptOn (options : Options) (count : Nat) (labels : List (Path × Text)) (log : RunLog)
    (path : Path) :
    Action Report :=
  let label := (Fields.get? path labels).getD []
  analyze (Writer.create none (some log)) path (outputName options count label)
    (pageName options count label)

/-- The entries about a style sheet that failed. -/
def noteFailure (log : RunLog) (path : Path) (e : Error) : Action Unit := do
  Action.record .error .run ("Error analyzing ".toList ++ path.text ++ ": ".toList ++
    e.message?.getD [])
  log.writeError e

/-- A run gets past a style sheet: it is reported on, or it fails with an error that the run
survives and notes. -/
inductive Step (options : Options) (count : Nat) (labels : List (Path × Text)) (log : RunLog)
    (world : World) (path : Path) : RunLog → World → Prop where
  | reported {next : RunLog} {after later : World} {report : Report}
      (success : attemptOn options count labels log path world = (.ok report, after))
      (shown : log.toConsole (summaryLine path report) after = (.ok next, later)) :
      Step options count labels log world path next later
  | failed {after later : World} {e : Error}
      (failure : attemptOn options count labels log path world = (.error e, after))
      (mild : e.isSurvivable = true) (noted : noteFailure log path e after = (.ok (), later)) :
      Step options count labels log world path log later

/-- A run gets past style sheets one after another. -/
inductive Passes (options : Options) (count : Nat) (labels : List (Path × Text)) :
    RunLog → World → List Path → RunLog → World → Prop where
  | start (log : RunLog) (world : World) : Passes options count labels log world [] log world
  | next {log next last : RunLog} {world later now : World} {path : Path} {paths : List Path}
      (step : Step options count labels log world path next later)
      (rest : Passes options count labels next later paths last now) :
      Passes options count labels log world (path :: paths) last now

section Run
variable {options : Options} {count : Nat} {labels : List (Path × Text)} {log next : RunLog}
  {world after later : World} {path : Path} {report : Report} {e : Error}

theorem Step.of_ok (step : Step options count labels log world path next later)
    (success : attemptOn options count labels log path world = (.ok report, after)) :
    log.toConsole (summaryLine path report) after = (.ok next, later) := by
  cases step with
  | reported own shown =>
    obtain ⟨same, rfl⟩ := Prod.mk.inj (own.symm.trans success)
    obtain rfl := Except.ok.inj same
    exact shown
  | failed own mild noted => cases own.symm.trans success

theorem Step.of_error (step : Step options count labels log world path next later)
    (failure : attemptOn options count labels log path world = (.error e, after)) :
    e.isSurvivable = true ∧ next = log ∧ noteFailure log path e after = (.ok (), later) := by
  cases step with
  | reported own shown => cases own.symm.trans failure
  | failed own mild noted =>
    obtain ⟨same, rfl⟩ := Prod.mk.inj (own.symm.trans failure)
    obtain rfl := Except.error.inj same
    exact ⟨mild, rfl, noted⟩

theorem analyzeAll_of_ok (paths : List Path)
    (success : attemptOn options count labels log path world = (.ok report, after)) :
    ∃ next later, log.toConsole (summaryLine path report) after = (.ok next, later) ∧
      analyzeAll options count labels log (path :: paths) world =
        analyzeAll options count labels next paths later := by
  exact ⟨_, _, rfl, bind_attempt success⟩

theorem analyzeAll_of_fatal (paths : List Path)
    (failure : attemptOn options count labels log path world = (.error e, after))
    (fatal : e.isSurvivable = false) :
    analyzeAll options count labels log (path :: paths) world = (.error e, after) := by
  refine (bind_attempt failure).trans ?_
  simp only [fatal]
  rfl

theorem analyzeAll_of_mild (paths : List Path)
    (failure : attemptOn options count labels log path world = (.error e, after))
    (mild : e.isSurvivable = true) :
    analyzeAll options count labels log (path :: paths) world = (do
      noteFailure log path e
      let (log, failures) ← analyzeAll options count labels log paths
      return (log, failures + 1) : Action (RunLog × Nat)) after := by
  refine (bind_attempt failure).trans ?_
  rw [noteFailure, bind_assoc]
  simp only [mild]
  rfl

theorem fst_map_eq_error_iff {α β : Type} {action : Action α} {f : α → β} :
    ((do return f (← action) : Action β) world).1 = .error e ↔ (action world).1 = .error e := by
  cases ran : action world with
  | mk result after =>
    cases result with
    | ok value =>
      rw [bind_of_ok ran]
      constructor <;> (intro impossible; cases impossible)
    | error other =>
      rw [bind_of_error ran]
      exact ⟨fun same => congrArg Except.error (Except.error.inj same),
        fun same => congrArg Except.error (Except.error.inj same)⟩

theorem failsOnly_noteFailure (log : RunLog) (path : Path) (e : Error) :
    FailsOnly Error.isOfFiles (noteFailure log path e) :=
  (failsOnly_record _ _ _).bind fun _ => RunLog.failsOnly_writeError log e

/-- A run comes to a style sheet whose failure it does not survive. -/
def StopsWith (options : Options) (count : Nat) (labels : List (Path × Text)) (log : RunLog)
    (world : World) (paths : List Path) (e : Error) : Prop :=
  ∃ before path rest last now, paths = before ++ path :: rest ∧
    Passes options count labels log world before last now ∧
    (attemptOn options count labels last path now).1 = .error e ∧ e.isSurvivable = false

theorem stopsWith_cons {paths : List Path} :
    StopsWith options count labels log world (path :: paths) e ↔
      ((attemptOn options count labels log path world).1 = .error e ∧ e.isSurvivable = false) ∨
      ∃ next later, Step options count labels log world path next later ∧
        StopsWith options count labels next later paths e := by
  constructor
  · rintro ⟨before, found, rest, last, now, whole, passed, stops⟩
    cases passed with
    | start =>
      obtain ⟨rfl, rfl⟩ := List.cons.inj whole
      exact .inl stops
    | next step further =>
      obtain ⟨rfl, rfl⟩ := List.cons.inj whole
      exact .inr ⟨_, _, step, _, found, rest, last, now, rfl, further, stops⟩
  · rintro (stops | ⟨next, later, step, before, found, rest, last, now, rfl, passed, stops⟩)
    · exact ⟨[], path, paths, log, world, rfl, .start log world, stops⟩
    · exact ⟨path :: before, found, rest, last, now, rfl, .next step passed, stops⟩

/-- Behind a survived failure a run stops early where the rest of it does. -/
theorem analyzeAll_unsurvivable_iff_of_mild {paths : List Path} {survived : Error}
    (failure : attemptOn options count labels log path world = (.error survived, after))
    (mild : survived.isSurvivable = true) :
    (analyzeAll options count labels log (path :: paths) world).1 = .error e ∧
      e.isSurvivable = false ↔
      ∃ later, noteFailure log path survived after = (.ok (), later) ∧
        (analyzeAll options count labels log paths later).1 = .error e ∧
          e.isSurvivable = false := by
  rw [analyzeAll_of_mild paths failure mild]
  cases noted : noteFailure log path survived after with
  | mk result later =>
    cases result with
    | ok done =>
      rw [bind_of_ok noted, fst_map_eq_error_iff]
      constructor
      · intro stops
        exact ⟨later, rfl, stops⟩
      · rintro ⟨now, same, stops⟩
        obtain ⟨-, rfl⟩ := Prod.mk.inj same
        exact stops
    | error cause =>
      -- The file of the log refused the entry; that ends a run too, with a mild error.
      have refused :=
        Error.isSurvivable_of_isOfFiles
          (failsOnly_noteFailure log path survived after cause (by rw [noted]))
      rw [bind_of_error noted]
      constructor
      · rintro ⟨same, fatal⟩
        rw [← Except.error.inj same, refused] at fatal
        cases fatal
      · rintro ⟨now, impossible, -⟩
        cases impossible

/-- A run stops early at its first style sheet, or it gets past that one and stops early in the
rest. -/
theorem analyzeAll_cons_unsurvivable_iff {paths : List Path} :
    (analyzeAll options count labels log (path :: paths) world).1 = .error e ∧
      e.isSurvivable = false ↔
      ((attemptOn options count labels log path world).1 = .error e ∧ e.isSurvivable = false) ∨
      ∃ next later, Step options count labels log world path next later ∧
        (analyzeAll options count labels next paths later).1 = .error e ∧
          e.isSurvivable = false := by
  cases ran : attemptOn options count labels log path world with
  | mk result after =>
    cases result with
    | ok report =>
      obtain ⟨next, later, shown, goesOn⟩ := analyzeAll_of_ok paths ran
      rw [goesOn]
      constructor
      · intro stops
        exact .inr ⟨next, later, .reported ran shown, stops⟩
      · rintro (⟨impossible, -⟩ | ⟨other, elsewhere, step, stops⟩)
        · cases impossible
        · obtain ⟨same, rfl⟩ := Prod.mk.inj (shown.symm.trans (step.of_ok ran))
          rwa [Except.ok.inj same]
    | error other =>
      by_cases mild : other.isSurvivable = true
      · rw [analyzeAll_unsurvivable_iff_of_mild ran mild]
        constructor
        · rintro ⟨later, noted, stops⟩
          exact .inr ⟨log, later, .failed ran mild noted, stops⟩
        · rintro (⟨same, fatal⟩ | ⟨next, later, step, stops⟩)
          · rw [← Except.error.inj same, mild] at fatal
            cases fatal
          · obtain ⟨-, rfl, noted⟩ := step.of_error ran
            exact ⟨later, noted, stops⟩
      · rw [Bool.not_eq_true] at mild
        rw [analyzeAll_of_fatal paths ran mild]
        constructor
        · rintro ⟨same, fatal⟩
          exact .inl ⟨congrArg Except.error (Except.error.inj same), fatal⟩
        · rintro (⟨same, fatal⟩ | ⟨next, later, step, -⟩)
          · exact ⟨congrArg Except.error (Except.error.inj same), fatal⟩
          · cases mild.symm.trans (step.of_error ran).1

/-- A run stops early exactly at a style sheet that it comes to and whose failure it does not
survive. -/
theorem analyzeAll_unsurvivable_iff {paths : List Path} :
    (analyzeAll options count labels log paths world).1 = .error e ∧ e.isSurvivable = false ↔
      StopsWith options count labels log world paths e := by
  induction paths generalizing log world with
  | nil =>
    constructor
    · rintro ⟨impossible, -⟩
      cases impossible
    · rintro ⟨before, path, rest, last, now, impossible, -⟩
      cases before <;> cases impossible
  | cons path paths ih =>
    rw [analyzeAll_cons_unsurvivable_iff, stopsWith_cons]
    simp only [ih]

end Run

end Cli

/-- The score of a style sheet. -/
def Score.ofText (css : Text) : Except Error Score := do
  let (rules, _) ← Rule.ofText css
  (Forest.ofRules rules).score (some Forest.root)

theorem Score.ofText_unannounced_iff (css : Text) (e : Error) :
    ofText css = .error e ∧ e.isAnnounced = false ↔
      (∃ digits, overlongNumeral? (scan css) = some digits ∧ e = .overlongNumeral digits) ∨
        ∃ rules notes, Rule.ofText css = .ok (rules, notes) ∧ Stumbles rules e := by
  cases overlong : overlongNumeral? (scan css) with
  | some digits =>
    have failed : Rule.ofText css = .error (.overlongNumeral digits) := by
      simp [Rule.ofText, Item.ofText, overlong, Except.map]
    rw [ofText, failed]
    constructor
    · rintro ⟨failure, -⟩
      exact .inl ⟨digits, rfl, (Except.error.inj failure).symm⟩
    · rintro (⟨_, same, rfl⟩ | ⟨_, _, impossible, -⟩)
      · rw [Option.some.inj same]
        exact ⟨rfl, rfl⟩
      · cases impossible
  | none =>
    obtain ⟨rules, notes, read⟩ : ∃ rules notes, Rule.ofText css = .ok (rules, notes) := by
      simp only [Rule.ofText, Item.ofText, overlong, Except.map]
      exact ⟨_, _, rfl⟩
    rw [ofText, read]
    refine (score_unannounced_iff rules e).trans ⟨?_, ?_⟩
    · intro stumbles
      exact .inr ⟨rules, notes, rfl, stumbles⟩
    · rintro (⟨_, impossible, -⟩ | ⟨_, _, same, stumbles⟩)
      · cases impossible
      · obtain ⟨rfl, rfl⟩ := Prod.mk.inj (Except.ok.inj same)
        exact stumbles

/-- Everything that goes wrong with the text of a style sheet is announced, with these exceptions.
Scoring fails without announcing it where a number cannot be read and where it stumbles. A request
is answered with an inner error, and a run stops before the remaining style sheets, where a style
sheet can be read and its report fails silently. -/
theorem silent_failure_iff (css : Text) (form : Web.Form) (request : Web.Request)
    (options : Cli.Options) (count : Nat) (labels : List (Path × Text)) (log : RunLog)
    (paths : List Path) (world : World) (e : Error) :
    (Score.ofText css = .error e ∧ e.isAnnounced = false ↔
      (∃ digits, overlongNumeral? (scan css) = some digits ∧ e = .overlongNumeral digits) ∨
        ∃ rules notes, Rule.ofText css = .ok (rules, notes) ∧ Score.Stumbles rules e) ∧
    ((Web.respondToSheet form request).status = 500 ↔
      ∃ sent source rules notes failure, request.sheet = .ok (sent, source) ∧ sent.trim ≠ [] ∧
        Rule.ofText sent = .ok (rules, notes) ∧ Report.FailsSilently rules failure) ∧
    ((Cli.analyzeAll options count labels log paths world).1 = .error e ∧ e.isSurvivable = false ↔
      ∃ before path rest last now read rules notes, paths = before ++ path :: rest ∧
        Cli.Passes options count labels log world before last now ∧ Cli.Reads now path read ∧
        Rule.ofText read = .ok (rules, notes) ∧ Report.FailsSilently rules e ∧
        e.isSurvivable = false) := by
  refine ⟨Score.ofText_unannounced_iff css e, Web.status_respondToSheet_iff form request, ?_⟩
  rw [Cli.analyzeAll_unsurvivable_iff]
  constructor
  · rintro ⟨before, path, rest, last, now, whole, passed, stops⟩
    obtain ⟨read, rules, notes, found⟩ := (Cli.analyze_unsurvivable_iff ..).1 stops
    exact ⟨before, path, rest, last, now, read, rules, notes, whole, passed, found⟩
  · rintro ⟨before, path, rest, last, now, read, rules, notes, whole, passed, found⟩
    exact ⟨before, path, rest, last, now, whole, passed,
      (Cli.analyze_unsurvivable_iff ..).2 ⟨read, rules, notes, found⟩⟩

/-- Scoring a look-alike of `is` behind a colon fails without announcing it. -/
theorem ofText_lookAlike : Score.ofText ":ıs\x7b\x7d".toList = .error .missingKey ∧
    Error.missingKey.isAnnounced = false := by
  decide +kernel

end StyleScore
