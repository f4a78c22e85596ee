import StyleScore.Proofs.Disk.Path
import StyleScore.Proofs.Json.Meaning
import StyleScore.Proofs.Stopping
import StyleScore.Proofs.Text.Trim
import StyleScore.Proofs.Text.Utf8
import StyleScore.Proofs.Token.Normal
import StyleScore.Proofs.World.Writing

/-!
A run over a file and a request with its text give the same report. The file is read with its line
ends made plain and the report is indented; the request has the text as it is, and the response has
its fields sorted on one line. Both succeed on the same texts with data of one meaning, and both
fail in scoring with one message. Only a text that cannot be read at all has a message of its own in
each. A report with a number that has too many digits is written by neither.
-/
namespace StyleScore

theorem Text.plainLineEnds_ne_nil {text : Text} (solid : text ≠ []) : plainLineEnds text ≠ [] := by
  fun_cases plainLineEnds text
  · exact absurd rfl solid
  · exact List.cons_ne_nil _ _
  · exact List.cons_ne_nil _ _
  · exact List.cons_ne_nil _ _

theorem Error.exists_message {e : Error} (announced : e.isAnnounced = true) :
    ∃ message, e.message? = some message := by
  cases e <;> first
    | exact ⟨_, rfl⟩
    | cases announced

theorem Report.page_ne_nil (report : Report) : report.page ≠ [] := by
  have first : opening ≠ [] := by decide
  simp [page, first]

namespace Disk

/-- A file that holds the bytes of a text has that text, its line ends made plain. -/
theorem readText_of_encode {disk : Disk} {path : Path} {text : Text}
    (held : disk.read path = .ok (Text.Utf8.encode text)) :
    disk.readText path = .ok (Text.plainLineEnds text) := by
  refine bind_eq_ok.2 ⟨_, held, ?_⟩
  rw [Text.Utf8.decode_encode]

end Disk

namespace Web

/-- Where a report in one of the two forms is asked for. -/
def Form.target : Form → Target
  | data => ⟨"http".toList, "localhost".toList, "/analyze".toList⟩
  | page => ⟨"http".toList, "localhost".toList, "/report".toList⟩

/-- The request for a report on a style sheet that comes in the form with the name of its source. -/
def post (form : Form) (css source : Text) : Request :=
  ⟨"POST".toList, form.target, [("css".toList, css), ("source".toList, source)], none⟩

theorem report_of_error {css : Text} {e : Error} (source : Text)
    (unread : Rule.ofText css = .error e) :
    report source css = .error .unparsableRequest := by
  rw [report, unread]

theorem report_plainLineEnds (source css : Text) :
    report source (Text.plainLineEnds css) = report source css := by
  rw [report, report, Rule.ofText_plainLineEnds]

theorem writing_of_report {source css : Text} {made : Report}
    (success : report source css = .ok made) :
    made.Writing := by
  cases read : Rule.ofText css with
  | error e =>
    rw [report_of_error source read] at success
    cases success
  | ok pair =>
    rw [report_of_ok source read] at success
    exact (Report.writing_of_ofRules success).1

section Answer

variable {limit : Int} {css source : Text} {e : Error}

theorem respond_post (form : Form) (small : (post .data css source).isTooLarge limit = false)
    (solid : css.trim ≠ []) :
    respond limit (post form css source) =
      match report source css with
      | .ok report =>
        match form.response report with
        | .ok response => response
        | .error _ => bareResponse 500
      | .error e =>
        if e.isAnnounced then errorResponse 422 (e.message?.getD []) else bareResponse 500 := by
  have routed : respond limit (post form css source) =
      if (post .data css source).isTooLarge limit then bareResponse 413
      else respondToSheet form (post form css source) := by
    cases form <;> rfl
  rw [routed, small, if_neg Bool.false_ne_true]
  change (if css.trim = [] then _ else _) = _
  rw [if_neg solid]
  rfl

theorem respond_of_complete (form : Form) (small : (post .data css source).isTooLarge limit = false)
    (solid : css.trim ≠ []) {made : Report} (success : report source css = .ok made)
    (data : made.toValue.HasJson) (page : made.render = .ok made.page) :
    form.response made = .ok (respond limit (post form css source)) ∧
      (respond limit (post form css source)).status = 200 := by
  obtain ⟨response, formed, status⟩ := response_of_complete form data page
  rw [respond_post form small solid, success]
  dsimp only
  rw [formed]
  exact ⟨rfl, status⟩

theorem respond_of_refused (form : Form) (small : (post .data css source).isTooLarge limit = false)
    (solid : css.trim ≠ []) {made : Report} (success : report source css = .ok made)
    (data : made.toValue.toJson = .error .overlongInteger)
    (page : made.render = .error .overlongInteger) :
    respond limit (post form css source) = bareResponse 500 := by
  rw [respond_post form small solid, success]
  dsimp only
  rw [response_of_refused form data page]

/-- A message can be told from its response. -/
theorem errorResponse_inj {status : Nat} {message other : Text}
    (same : errorResponse status message = errorResponse status other) : message = other := by
  have bodies := congrArg (Json.decode? ∘ Response.body) same
  simp only [Function.comp_apply, errorResponse, dataResponse, Json.decode?_sorted,
    Option.some.injEq] at bodies
  injection bodies with fields
  have texts := congrFun fields "error".toList
  simpa [Json.meaningFields, Json.reread, Json.rereadFields, Json.meaning] using texts

/-- A report is sent exactly when there is one that can be written. -/
theorem status_respond_iff (form : Form) (small : (post .data css source).isTooLarge limit = false)
    (solid : css.trim ≠ []) :
    (respond limit (post form css source)).status = 200 ↔
      ∃ made, report source css = .ok made ∧ made.toValue.HasJson := by
  cases made : report source css with
  | ok value =>
    cases writing_of_report made with
    | complete data page =>
      obtain ⟨-, status⟩ := respond_of_complete form small solid made data page
      exact ⟨fun _ => ⟨value, rfl, data⟩, fun _ => status⟩
    | refused data page =>
      rw [respond_of_refused form small solid made data page]
      constructor
      · intro impossible
        cases impossible
      · rintro ⟨_, same, _, written⟩
        obtain rfl := Except.ok.inj same
        cases data.symm.trans written
  | error e =>
    rw [respond_post form small solid, made]
    dsimp only
    constructor
    · intro status
      split at status <;> cases status
    · rintro ⟨value, impossible, -⟩
      cases impossible

/-- A message is sent exactly when it is that of an announced error. -/
theorem respond_eq_errorResponse_iff (form : Form)
    (small : (post .data css source).isTooLarge limit = false) (solid : css.trim ≠ [])
    (message : Text) :
    respond limit (post form css source) = errorResponse 422 message ↔
      ∃ e, report source css = .error e ∧ e.isAnnounced = true ∧ e.message? = some message := by
  cases made : report source css with
  | ok value =>
    have other : (respond limit (post form css source)).status ≠ 422 := by
      cases writing_of_report made with
      | complete data page => simp [(respond_of_complete form small solid made data page).2]
      | refused data page => simp [respond_of_refused form small solid made data page, bareResponse]
    constructor
    · intro sent
      rw [sent] at other
      exact absurd rfl other
    · rintro ⟨e, impossible, -⟩
      cases impossible
  | error e =>
    rw [respond_post form small solid, made]
    dsimp only
    constructor
    · intro sent
      refine ⟨e, rfl, ?_⟩
      split at sent
      · next announced =>
        obtain ⟨own, spelled⟩ := Error.exists_message announced
        rw [spelled] at sent ⊢
        exact ⟨announced, congrArg some (errorResponse_inj sent)⟩
      · cases congrArg Response.status sent
    · rintro ⟨other, same, announced, spelled⟩
      obtain rfl := Except.error.inj same
      rw [if_pos announced, spelled]
      rfl

end Answer
end Web

namespace Cli

/-- The disk takes a report: its data, and its page, where one is asked for, at another place. -/
def Takes (disk : Disk) (writer : Writer) (output html : Option Text) (report : Report) : Prop :=
  ∀ json, report.toValue.toJson = .ok json →
    let saved := disk.save (writer.outputPath output) json.indented
    saved.1 = .ok () ∧ ∀ name, html.filter (· ≠ []) = some name →
      (saved.2.save (Path.ofText name) report.page).1 = .ok () ∧
        disk.destination (writer.outputPath output) ≠ disk.destination (Path.ofText name)

/-- The disk has a style sheet under a path, and takes the report on it. -/
structure Filed (disk : Disk) (path : Path) (css : Text) (writer : Writer)
    (output html : Option Text) : Prop where
  sound : disk.Sound
  held : disk.read path = .ok (Text.Utf8.encode css)
  takes : ∀ report, Web.report path.text css = .ok report → Takes disk writer output html report

section Running

variable {world : World} {path : Path} {css : Text} {writer : Writer} {output html : Option Text}
    {report : Report}

/-- What was published can be read where the data goes. -/
theorem publish_of_takes {json : Json} (sound : world.disk.Sound)
    (form : report.toValue.toJson = .ok json) (rendered : report.render = .ok report.page)
    (takes : Takes world.disk writer output html report) :
    ∃ after, publish writer output html report world = (.ok report, after) ∧
      after.disk.read (writer.outputPath output) = .ok (Text.Utf8.encode json.indented) := by
  obtain ⟨saved, page⟩ := takes json form
  obtain ⟨keeps, there⟩ := Disk.save_spec sound (writer.outputPath output) json.indented
  obtain ⟨between, disk, written⟩ := writer.saveText_of_ok saved
  rw [← disk] at keeps there page
  rw [publish_of_complete form rendered, Action.bind_of_ok written]
  cases asked : html.filter (· ≠ []) with
  | none => exact ⟨between, rfl, there saved⟩
  | some name =>
    obtain ⟨shown, apart⟩ := page name asked
    have named : name ≠ [] := by simpa using (Option.filter_eq_some_iff.1 asked).2
    obtain ⟨after, later, writtenToo⟩ := writer.writeAs_of_ok named report.page_ne_nil shown
    refine ⟨after, Action.bind_of_ok writtenToo, ?_⟩
    obtain ⟨keepsToo, -⟩ := Disk.save_spec (keeps.sound sound) (Path.ofText name) report.page
    rw [← later] at keepsToo
    refine keepsToo.read_eq (keeps.sound sound) ?_ (there saved)
    rwa [keeps.destination_eq, keeps.destination_eq]

/-- A style sheet on the disk is worked on as its text, whatever its line ends. -/
theorem analyze_of_filed (plain : path.IsPlain) (solid : css ≠ [])
    (filed : Filed world.disk path css writer output html) :
    ∃ after, after.disk = world.disk ∧
      analyze writer path output html world = reportOn writer path output html css after := by
  have reads : Reads world path (Text.plainLineEnds css) := by
    refine ⟨Path.text_ne_nil plain, Text.plainLineEnds_ne_nil solid, ?_⟩
    rw [Path.ofText_text plain]
    exact Disk.readText_of_encode filed.held
  obtain ⟨after, same, ran⟩ := analyze_of_reads reads
  refine ⟨after, same, (ran writer output html).trans ?_⟩
  rw [reportOn, reportOn, Rule.ofText_plainLineEnds]

/-- Where the request has a report, the run makes the same one and publishes it. -/
theorem analyze_eq_publish (plain : path.IsPlain) (solid : css ≠ [])
    (filed : Filed world.disk path css writer output html)
    (made : Web.report path.text css = .ok report) :
    ∃ before, before.disk = world.disk ∧
      analyze writer path output html world = publish writer output html report before := by
  obtain ⟨before, same, ran⟩ := analyze_of_filed plain solid filed
  refine ⟨before, same, ran.trans ?_⟩
  unfold reportOn
  cases read : Rule.ofText css with
  | error e => cases (Web.report_of_error path.text read).symm.trans made
  | ok pair =>
    obtain ⟨rules, notes⟩ := pair
    rw [Web.report_of_ok path.text read] at made
    dsimp only
    rw [made]
    rfl

/-- Where the request has a report that can be written, the run leaves its data on the disk. -/
theorem analyze_of_complete {json : Json} (plain : path.IsPlain) (solid : css ≠ [])
    (filed : Filed world.disk path css writer output html)
    (made : Web.report path.text css = .ok report) (form : report.toValue.toJson = .ok json)
    (page : report.render = .ok report.page) :
    ∃ after, analyze writer path output html world = (.ok report, after) ∧
      after.disk.read (writer.outputPath output) = .ok (Text.Utf8.encode json.indented) := by
  obtain ⟨before, same, ran⟩ := analyze_eq_publish plain solid filed made
  have takes := filed.takes report made
  have sound := filed.sound
  rw [← same] at takes sound
  rw [ran]
  exact publish_of_takes sound form page takes

theorem analyze_of_refused (plain : path.IsPlain) (solid : css ≠ [])
    (filed : Filed world.disk path css writer output html)
    (made : Web.report path.text css = .ok report)
    (data : report.toValue.toJson = .error .overlongInteger) :
    (analyze writer path output html world).1 = .error .overlongInteger := by
  obtain ⟨before, -, ran⟩ := analyze_eq_publish plain solid filed made
  rw [ran, publish_of_refused data]

theorem analyze_of_unscored {rules : List Rule} {notes : List Note} {e : Error}
    (plain : path.IsPlain) (solid : css ≠ []) (filed : Filed world.disk path css writer output html)
    (read : Rule.ofText css = .ok (rules, notes)) (failed : Web.report path.text css = .error e) :
    (analyze writer path output html world).1 = .error e := by
  obtain ⟨before, -, ran⟩ := analyze_of_filed plain solid filed
  rw [Web.report_of_ok path.text read] at failed
  rw [ran, reportOn, read]
  dsimp only
  rw [failed]
  rfl

theorem analyze_of_unread {e : Error} (plain : path.IsPlain) (solid : css ≠ [])
    (filed : Filed world.disk path css writer output html) (unread : Rule.ofText css = .error e) :
    (analyze writer path output html world).1 = .error (.unparsable path.text) := by
  obtain ⟨before, -, ran⟩ := analyze_of_filed plain solid filed
  rw [ran, reportOn, unread]
  rfl

end Running

section Agreement

variable {world : World} {path : Path} {css : Text} {writer : Writer} {output html : Option Text}
    {limit : Int}

theorem ne_nil_of_trim (solid : css.trim ≠ []) : css ≠ [] := by
  rintro rfl
  exact solid rfl

/-- The run has a report exactly when the request has one that can be written. -/
theorem analyze_ok_iff (plain : path.IsPlain) (solid : css ≠ [])
    (filed : Filed world.disk path css writer output html) :
    (∃ report, (analyze writer path output html world).1 = .ok report) ↔
      ∃ report, Web.report path.text css = .ok report ∧ report.toValue.HasJson := by
  cases made : Web.report path.text css with
  | ok report =>
    cases Web.writing_of_report made with
    | complete data page =>
      obtain ⟨json, form⟩ := data
      obtain ⟨after, ran, -⟩ := analyze_of_complete plain solid filed made form page
      rw [ran]
      exact ⟨fun _ => ⟨report, rfl, json, form⟩, fun _ => ⟨report, rfl⟩⟩
    | refused data page =>
      rw [analyze_of_refused plain solid filed made data]
      constructor
      · rintro ⟨_, impossible⟩
        cases impossible
      · rintro ⟨_, same, _, written⟩
        obtain rfl := Except.ok.inj same
        cases data.symm.trans written
  | error e =>
    have failed : ∃ other, (analyze writer path output html world).1 = .error other := by
      cases read : Rule.ofText css with
      | error cause => exact ⟨_, analyze_of_unread plain solid filed read⟩
      | ok pair => exact ⟨e, analyze_of_unscored plain solid filed read made⟩
    obtain ⟨other, failed⟩ := failed
    rw [failed]
    simp

/-- A text that can be read fails in the run with an announced error exactly as in the request. -/
theorem analyze_error_iff {rules : List Rule} {notes : List Note} (plain : path.IsPlain)
    (solid : css ≠ []) (filed : Filed world.disk path css writer output html)
    (read : Rule.ofText css = .ok (rules, notes)) {e : Error} (announced : e.isAnnounced = true) :
    (analyze writer path output html world).1 = .error e ↔ Web.report path.text css = .error e := by
  cases made : Web.report path.text css with
  | ok report =>
    cases Web.writing_of_report made with
    | complete data page =>
      obtain ⟨json, form⟩ := data
      obtain ⟨after, ran, -⟩ := analyze_of_complete plain solid filed made form page
      rw [ran]
    | refused data page =>
      rw [analyze_of_refused plain solid filed made data]
      constructor
      · intro same
        cases same
        cases announced
      · intro impossible
        cases impossible
  | error other => rw [analyze_of_unscored plain solid filed read made]

/-- The file that a run leaves means what the body of the response means. -/
theorem decode?_report {report : Report} (plain : path.IsPlain) (solid : css.trim ≠ [])
    (small : (Web.post .data css path.text).isTooLarge limit = false)
    (filed : Filed world.disk path css writer output html)
    (made : Web.report path.text css = .ok report) (data : report.toValue.HasJson) :
    ∃ file value, (analyze writer path output html world).2.disk.read (writer.outputPath output) =
        .ok (Text.Utf8.encode file) ∧
      Json.decode? file = some value ∧
        Json.decode? (Web.respond limit (Web.post .data css path.text)).body = some value := by
  obtain ⟨json, form⟩ := data
  have page : report.render = .ok report.page := by
    cases Web.writing_of_report made with
    | complete _ page => exact page
    | refused refused _ => cases refused.symm.trans form
  obtain ⟨after, ran, there⟩ :=
    analyze_of_complete plain (ne_nil_of_trim solid) filed made form page
  obtain ⟨formed, -⟩ := Web.respond_of_complete .data small solid made ⟨json, form⟩ page
  obtain ⟨_, sameForm, sent⟩ := map_eq_ok.1 formed
  obtain rfl := Except.ok.inj (form.symm.trans sameForm)
  refine ⟨json.indented, json.reread.meaning, ?_, Json.decode?_indented json, ?_⟩
  · rw [ran]
    exact there
  · rw [← sent]
    exact Json.decode?_sorted json

end Agreement

/-- A style sheet in a file and the same text in a request. Both have a report or neither has, and
the file that the run leaves means what the response means. A text with a number that is too long to
be read fails in both, each with its own message; any other that fails in scoring has one message in
both. How its lines end does not matter. -/
theorem analyze_agrees_with_respond (world : World) (name css : Text) (writer : Writer)
    (output html : Option Text) (limit : Int) (solid : ∃ c ∈ css, Text.isBlank c = false)
    (small : (Web.post .data css (Path.ofText name).text).isTooLarge limit = false)
    (filed : Filed world.disk (Path.ofText name) css writer output html) :
    let ran := analyze writer (Path.ofText name) output html world
    let response (form : Web.Form) := Web.respond limit (Web.post form css (Path.ofText name).text)
    (∀ form, (∃ report, ran.1 = .ok report) ↔ (response form).status = 200) ∧
      ((response .data).status = 200 → ∃ file value,
        ran.2.disk.read (writer.outputPath output) = .ok (Text.Utf8.encode file) ∧
          Json.decode? file = some value ∧ Json.decode? (response .data).body = some value) ∧
      ((∃ digits, overlongNumeral? (scan css) = some digits) →
        ran.1 = .error (.unparsable (Path.ofText name).text) ∧
          ∀ form, response form = Web.errorResponse 422 "CSS could not be parsed".toList) ∧
      (overlongNumeral? (scan css) = none → ∀ form message,
        (∃ e, ran.1 = .error e ∧ e.isAnnounced = true ∧ e.message? = some message) ↔
          response form = Web.errorResponse 422 message) ∧
      ∀ source, Web.report source (Text.plainLineEnds css) = Web.report source css := by
  obtain ⟨c, member, black⟩ := solid
  have solid := Text.trim_ne_nil_of_mem member black
  have plain := Path.isPlain_ofText name
  have filled := ne_nil_of_trim solid
  refine ⟨?_, ?_, ?_, ?_, fun source => Web.report_plainLineEnds source css⟩
  · intro form
    exact (analyze_ok_iff plain filled filed).trans (Web.status_respond_iff form small solid).symm
  · intro status
    obtain ⟨report, made, data⟩ := (Web.status_respond_iff .data small solid).1 status
    exact decode?_report plain solid small filed made data
  · intro overlong
    obtain ⟨e, unread⟩ := (Rule.ofText_eq_error_iff css).2 overlong
    refine ⟨analyze_of_unread plain filled filed unread, ?_⟩
    intro form
    exact (Web.respond_eq_errorResponse_iff form small solid _).2 ⟨_,
      Web.report_of_error _ unread, rfl, rfl⟩
  · intro short form message
    cases read : Rule.ofText css with
    | error e =>
      obtain ⟨digits, overlong⟩ := (Rule.ofText_eq_error_iff css).1 ⟨e, read⟩
      cases short.symm.trans overlong
    | ok pair =>
      rw [Web.respond_eq_errorResponse_iff form small solid]
      refine exists_congr fun e => ?_
      constructor
      · rintro ⟨failed, announced, spelled⟩
        exact ⟨(analyze_error_iff plain filled filed read announced).1 failed, announced, spelled⟩
      · rintro ⟨failed, announced, spelled⟩
        exact ⟨(analyze_error_iff plain filled filed read announced).2 failed, announced, spelled⟩

def sheetName : Text := "x.css".toList

/-- A disk with one style sheet. -/
def loneSheet (css : Text) : Disk := ⟨.folder [(sheetName, .file (Text.Utf8.encode css))], []⟩

/-- The disk takes the data and the page of whatever report there is on its style sheet. -/
theorem filed_loneSheet (css : Text) :
    Filed (loneSheet css) (Path.ofText sheetName) css (Writer.create none none) none
      (some "x.html".toList) where
  sound := ⟨_, rfl⟩
  held := rfl
  takes := by
    intro report _ json _
    refine ⟨rfl, ?_⟩
    intro name asked
    cases asked
    refine ⟨rfl, ?_⟩
    change [_] ≠ [_]
    decide

/-- A style sheet without rules: a comment, and a line end of two characters. -/
def bareComment : Text := "/**/\r\n".toList

theorem report_bareComment :
    ∃ made, Web.report (Path.ofText sheetName).text bareComment = .ok made ∧
      made.toValue.HasJson := by
  have success : (Web.report (Path.ofText sheetName).text bareComment >>= fun made =>
      made.toValue.toJson).toBool = true := by decide +kernel
  cases made : Web.report (Path.ofText sheetName).text bareComment with
  | error e =>
    rw [made] at success
    cases success
  | ok report =>
    rw [made] at success
    change report.toValue.toJson.toBool = true at success
    cases form : report.toValue.toJson with
    | ok json => exact ⟨report, rfl, json, form⟩
    | error e => cases (congrArg Except.toBool form).symm.trans success

theorem analyze_agrees_with_respond_bareComment :
    let ran := analyze (Writer.create none none) (Path.ofText sheetName) none (some "x.html".toList)
      ⟨loneSheet bareComment, [], [], []⟩
    let response :=
      Web.respond Web.standardLimit (Web.post .data bareComment (Path.ofText sheetName).text)
    response.status = 200 ∧ (∃ report, ran.1 = .ok report) ∧
      ∃ file value, ran.2.disk.read ((Writer.create none none).outputPath none) =
        .ok (Text.Utf8.encode file) ∧
        Json.decode? file = some value ∧ Json.decode? response.body = some value := by
  have solid : ∃ c ∈ bareComment, Text.isBlank c = false := ⟨'/', by decide, by decide⟩
  have small : (Web.post .data bareComment (Path.ofText sheetName).text).isTooLarge
      Web.standardLimit = false := by
    decide
  have status := (Web.status_respond_iff .data small (by decide)).2 report_bareComment
  obtain ⟨succeeds, same, -⟩ := analyze_agrees_with_respond ⟨loneSheet bareComment, [], [], []⟩
    sheetName bareComment (Writer.create none none) none (some "x.html".toList) Web.standardLimit
    solid small (filed_loneSheet bareComment)
  exact ⟨status, (succeeds .data).2 status, same status⟩

theorem querySize_replicate (n : Nat) : Web.querySize (List.replicate n '1') = n := by
  induction n with
  | zero => rfl
  | succ n ih =>
    have first : Web.querySize (List.replicate (n + 1) '1') =
        1 + Web.querySize (List.replicate n '1') := rfl
    omega

theorem small_manyDigits :
    (Web.post .data manyDigits (Path.ofText sheetName).text).isTooLarge Web.standardLimit =
      false := by
  have sheet : Web.querySize manyDigits = 4301 := querySize_replicate 4301
  have size : Web.formSize (Web.post .data manyDigits (Path.ofText sheetName).text).form =
      4318 := by
    have name : Web.querySize "css".toList = 3 := by decide
    have rest : Web.querySize "source".toList + Web.querySize (Path.ofText sheetName).text =
        11 := by decide
    simp only [Web.post, Web.formSize, List.map, total, List.length_cons, List.length_nil,
      sheet, name]
    omega
  change (decide (Web.standardLimit < (Web.formSize _ : Int)) ||
    decide (Web.formLimit < Web.formSize _) || false) = false
  rw [size]
  decide

/-- A numeral of too many digits: the run names the path of what it cannot read, and the response
does not. -/
theorem unparsable_manyDigits :
    let ran := analyze (Writer.create none none) (Path.ofText sheetName) none (some "x.html".toList)
      ⟨loneSheet manyDigits, [], [], []⟩
    let response :=
      Web.respond Web.standardLimit (Web.post .data manyDigits (Path.ofText sheetName).text)
    ∃ e message, ran.1 = .error e ∧ e.isAnnounced = true ∧ e.message? = some message ∧
      response ≠ Web.errorResponse 422 message := by
  have black : manyDigits.trim ≠ [] :=
    Text.trim_ne_nil_of_mem (List.mem_replicate.2 ⟨by decide, rfl⟩) (by decide)
  refine ⟨.unparsable (Path.ofText sheetName).text, _, ?_, rfl, rfl, ?_⟩
  · exact analyze_of_unread (Path.isPlain_ofText sheetName) manyDigits_ne_nil
      (filed_loneSheet manyDigits)
      Rule.ofText_manyDigits
  · intro sent
    obtain ⟨e, unread, -, spelled⟩ :=
      (Web.respond_eq_errorResponse_iff .data small_manyDigits black _).1 sent
    obtain rfl :=
      Except.error.inj ((Web.report_of_error _ Rule.ofText_manyDigits).symm.trans unread)
    exact absurd spelled (by decide)

end Cli
end StyleScore
