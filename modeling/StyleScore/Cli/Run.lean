import StyleScore.Cli.Label
import StyleScore.Cli.Options
import StyleScore.Disk.Listing
import StyleScore.Reader
import StyleScore.Report.Page
import StyleScore.Value.Show
import StyleScore.Writer

/-!
A run over style sheets: each is read, scored and reported on by itself, and one that fails is noted
while the run goes on with the next. One builder of reports serves a whole run, and it is no part of
the state here: before it writes anything for a style sheet it replaces all that it holds by the
report on that style sheet, so what it held before is never seen.
-/
namespace StyleScore.Cli

/-- Reads and scores one style sheet and writes its reports. -/
def analyze (writer : Writer) (path : Path) (output html : Option Text) : Action Report := do
  let (_, reader) ← (Reader.ofFile (some path.text)).load
  if reader.text.isNone then throw (.unreadable path.text)
  let (sheet, _) ← reader.sheet
  match sheet with
  | none => throw (.unparsable path.text)
  | some sheet =>
    let score ← sheet.forest.scoreAloud (some Forest.root)
    let report ← Action.ofExcept (Report.ofScore path.text score)
    let _ ← writer.writeData report.toValue output
    match html.filter (· ≠ []) with
    | none => return report
    | some html =>
      let page ← Action.ofExcept report.render
      let _ ← writer.writeAs (.text page) (some html)
      return report

/-- The name for the report on one of `count` style sheets: a label behind the name asked for,
unless there is only one. -/
def outputName (options : Options) (count : Nat) (label : Text) : Option Text :=
  if count = 1 then options.output
  else match options.output.filter (· ≠ []) with
    | some output => some (output ++ '.' :: label)
    | none => some label

/-- The name of the page on one of `count` style sheets: a label in front of the last part of the
name asked for, unless there is only one. -/
def pageName (options : Options) (count : Nat) (label : Text) : Option Text :=
  match options.html.filter (· ≠ []) with
  | none => none
  | some html =>
    if count ≤ 1 then some html
    else
      let path := Path.ofText html
      some (path.parent.child (label ++ '.' :: path.name)).text

def summaryLine (path : Path) (report : Report) : Text :=
  path.text ++ ": ".toList ++ Text.ofNat report.summary.totalRules ++
    " rules, max selector complexity ".toList ++ report.summary.maxComplexity.printed

/-- Works on the style sheets in order and counts those that fail. -/
def analyzeAll (options : Options) (count : Nat) (labels : List (Path × Text)) (log : RunLog) :
    List Path → Action (RunLog × Nat)
  | [] => return (log, 0)
  | path :: paths => do
    let label := (Fields.get? path labels).getD []
    let writer := Writer.create none (some log)
    let attempt :=
      analyze writer path (outputName options count label) (pageName options count label)
    match ← attempt.attempt with
    | .ok report =>
      let log ← log.toConsole (summaryLine path report)
      analyzeAll options count labels log paths
    | .error e =>
      if !e.isSurvivable then throw e
      Action.record .error .run
        ("Error analyzing ".toList ++ path.text ++ ": ".toList ++ e.message?.getD [])
      log.writeError e
      let (log, failures) ← analyzeAll options count labels log paths
      return (log, failures + 1)

def endLine (done count : Nat) (log : RunLog) : Text :=
  "Analyzed ".toList ++ Text.ofNat done ++ '/' :: Text.ofNat count ++ " files in ".toList ++
    log.elapsed.elim [] Binary64.wholeText ++ "ms".toList

/-- Works on what the options name; the result is the exit status. -/
def runWith (options : Options) : Action Nat := do
  let log ← match options.logFile with
    | some name => RunLog.create name
    | none => throw .wrongType
  let log ← log.startTimer
  let log ← log.toConsole (RunLog.banner (← get).now "CSS Complexity Weights".toList)
  let paths ← Action.inspect fun disk => disk.expand (options.paths.map Path.ofText)
  let labels ← Action.inspect fun disk => labels disk.workFolder paths
  let (log, failures) ← analyzeAll options paths.length labels log paths
  let log ← log.endTimer
  let _ ← log.toConsole (endLine (paths.length - failures) paths.length log)
  return if failures = 0 then 0 else 1

inductive Ending where
  /-- A run came to its end. -/
  | exit (status : Nat)
  /-- There was no run; `line` is the last line of what is said about the arguments. -/
  | refused (status : Nat) (line : Text)
  deriving DecidableEq, Repr

/-- Debug entries are kept only in a verbose run. -/
def keepEntries (verbose : Bool) (journal : List Entry) : List Entry :=
  journal.filter fun entry => verbose || entry.level ≠ .debug

/-- A run of the command line: how it ends, and the world after it. -/
def run (arguments : List Text) (world : World) : Except Error Ending × World :=
  match Options.ofArguments RunLog.defaultName arguments with
  | .error .help => (.ok (.refused 0 []), world)
  | .error (.usage e) => (.ok (.refused 2 e.line), world)
  | .ok options =>
    let (result, world) := runWith options world
    (result.map .exit, { world with journal := keepEntries options.verbose world.journal })

end StyleScore.Cli
