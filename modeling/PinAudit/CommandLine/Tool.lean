import PinAudit.CommandLine.Commands
import PinAudit.Log.Filter
import PinAudit.Run
import PinAudit.Report.Json
import PinAudit.Report.Markdown
import PinAudit.Report.Annotation
import PinAudit.Explain

/-!
# The tool

What a command line does, over any file system and clock:

- a command line that asks for help or the version prints it and succeeds; one that does not
  read is refused with exit code 2;
- `check` runs the checks of the repository's configuration (a missing configuration file
  stands for the defaults), logs that it finished, writes the JSON report (and the Markdown
  one when asked), and exits with the verdict's code. When a step fails it writes a report of
  the failure instead, prints `pinguard error: ` and the failure, and exits with 1;
- `md` and `annotations` read a report and print it as Markdown or as workflow annotations;
  when they fail they print the failure with its causes and the frames it was raised in, and
  exit with 1;
- `explain` prints what a check or a finding code means, or the known ones.

Events are printed when the log filter lets them through: debug when `-v` is given, else the
filter of the environment when it reads, else info. The frames of a backtrace are the runtime's,
and the tool is given them.

The tool calls the libraries of a run, the codec of report texts and a log filter library, given
to it as `ToolLibraries`; `ToolLibraries.tool` are those it runs.

Main definitions: `Outcome`, `CommandError`, `ToolLibraries`, `runTool`.
-/

namespace PinAudit.CommandLine

/-- Where the tool itself logs. -/
def toolTarget : String := "pinguard"

/-- **A piece of what the tool prints on its standard error**: text, or an event the log
filter let through. -/
inductive ErrorPiece where
  | text (s : String)
  | event (e : LogEvent)
  deriving DecidableEq, Repr

/-- **What a run of the tool did**: its exit code and what it printed. -/
structure Outcome where
  exitCode : Nat
  stdout : String := ""
  stderr : List ErrorPiece := []
  deriving DecidableEq, Repr

namespace Outcome

/-- The standard error as text, each event on a line of its own, without its time. -/
def errorText (o : Outcome) : String :=
  String.join (o.stderr.map fun
    | .text s => s
    | .event e => e.line ++ "\n")

/-- A time as a log line starts with it: in UTC, to the microsecond. -/
def logTime (t : Timestamp) : String :=
  Timestamp.padded 4 t.year ++ "-" ++ Timestamp.padded 2 t.month ++ "-" ++
    Timestamp.padded 2 t.day ++ "T" ++ Timestamp.padded 2 t.hour ++ ":" ++
    Timestamp.padded 2 t.minute ++ ":" ++ Timestamp.padded 2 t.second ++ "." ++
    Timestamp.padded 6 (t.nanosecond / 1000) ++ "Z"

/-- **The standard error as printed at a time**: each event on its line after the time and its
level in five columns. -/
def errorTextAt (o : Outcome) (t : Timestamp) : String :=
  String.join (o.stderr.map fun
    | .text s => s
    | .event e =>
      logTime t ++ " " ++ String.ofList (List.replicate (5 - e.level.name.length) ' ') ++
        e.level.name ++ " " ++ e.text ++ "\n")

/-- A line that a line feed ended, without a carriage return before that line feed. -/
def endedLine (l : String) : String := if l.endsWith "\r" then (l.dropEnd 1).toString else l

/-- **The lines of the standard error**, each event without its time: the text cut after each
line feed; a line that a line feed ends loses it and a carriage return before it, and text
after the last line feed is a last line when it is not empty. -/
def errorLines (o : Outcome) : List String :=
  let pieces := o.errorText.splitOn "\n"
  let ended := pieces.dropLast.map endedLine
  match pieces.getLast? with
  | some last => if last.isEmpty then ended else ended ++ [last]
  | none => ended

end Outcome

/-! ### Errors of commands -/

/-- **Where an error of a command began**: an operating system error given its context, a
report text that is not a report, or a report of another schema. The backtrace printed with the
error is the runtime's and differs by origin: the tool is given its frames for each origin. -/
inductive Origin where
  | io
  | reportText
  | reportSchema
  deriving DecidableEq, Repr

/-- Where a refused report text began. -/
def refusalOrigin : ReportRefusal → Origin
  | .unknownSchema _ => .reportSchema
  | _ => .reportText

/-- **An error a command returns**: its messages, outermost first, and where it began. -/
structure CommandError where
  failure : Failure
  origin : Origin
  deriving DecidableEq, Repr

/-- A text padded on the left with blanks to a width. -/
def padLeft (width : Nat) (s : String) : String :=
  String.ofList (List.replicate (width - s.length) ' ') ++ s

/-- A message with every line after the first indented. -/
def indentRest (indent message : String) : String :=
  match message.splitOn "\n" with
  | [] => ""
  | first :: rest => first ++ String.join (rest.map fun l => "\n" ++ indent ++ l)

/-- The causes of an error, below its outermost message: one indented, several numbered. -/
def causesText : List String → String
  | [] => ""
  | [c] => "\n\nCaused by:\n    " ++ indentRest "    " c
  | cs =>
    "\n\nCaused by:" ++ String.join (cs.zipIdx.map fun (c, i) =>
      "\n" ++ padLeft 5 (toString i) ++ ": " ++ indentRest "       " c)

/-- **The printed error**: `Error: `, the outermost message, its causes and the backtrace, whose
frames the runtime gives for the error's origin. -/
def CommandError.render (backtrace : Origin → List String) (e : CommandError) : String :=
  let frames := (backtrace e.origin).zipIdx.map fun (f, i) => padLeft 4 (toString i) ++ ": " ++ f
  "Error: " ++ e.failure.headline ++ causesText e.failure.causes.tail ++
    "\n\nStack backtrace:\n" ++ "\n".intercalate frames ++ "\n"

/-- The outcome of a command that returned an error. -/
def CommandError.outcome (backtrace : Origin → List String) (e : CommandError) : Outcome :=
  { exitCode := 1, stderr := [.text (e.render backtrace)] }

/-! ### Libraries -/

/-- **A log filter library**: the filters it reads from texts of directives. -/
structure LogFilters where
  /-- Read a filter from a text of directives, or refuse the text. -/
  read : String → Option (LogEvent → Bool)
  /-- The filter of a text of directives, whatever does not read left out. -/
  new : String → LogEvent → Bool

/-- The log filter library the tool runs. -/
def LogFilters.tool : LogFilters where
  read text := (LogFilter.read? text).map LogFilter.admits
  new text := ((LogFilter.read? text).getD ⟨[]⟩).admits

/-- **The filter of a command line**: debug when asked to be verbose, else the filter text of
the environment when there is one that reads, else info. -/
def LogFilters.choose (filters : LogFilters) (verbose : Bool) (env : Option String) :
    LogEvent → Bool :=
  if verbose then filters.new "debug"
  else (env.bind filters.read).getD (filters.new "info")

/-- **The libraries the tool calls**: those of a run, the codec of report texts and a log filter
library. -/
structure ToolLibraries extends Libraries where
  report : ReportCodec
  logFilters : LogFilters

/-- The libraries the tool runs. -/
def ToolLibraries.tool : ToolLibraries :=
  { Libraries.tool with report := ReportCodec.tool, logFilters := LogFilters.tool }

/-! ### Commands -/

section

variable {m : Type → Type} [Monad m] [FileSystem m]

/-- **Write a text file**, making its directory first; `writing` names the write in the
failure. -/
def writeFile (path text writing : String) : m (Except Failure Unit) := do
  match Path.parent? path with
  | some parent =>
    match ← FileSystem.makeDirs parent with
    | .error e => return .error ⟨["create directory: " ++ parent, e.message]⟩
    | .ok () => pure ()
  | none => pure ()
  match ← FileSystem.writeText path text with
  | .error e => pure (.error ⟨[writing ++ path, e.message]⟩)
  | .ok () => pure (.ok ())

/-- The event of a missing configuration file. -/
def noConfig (path : String) : LogEvent :=
  { level := .debug, target := toolTarget,
    message := "no config at " ++ path ++ "; using defaults" }

/-- A verdict as the event of a finished check shows it. -/
def verdictTitle : Verdict → String
  | .pass => "Pass"
  | .warn => "Warn"
  | .fail => "Fail"

/-- The event of a finished check. -/
def finished (r : Report) : LogEvent :=
  { level := .info, target := toolTarget, message := "pinguard check finished",
    fields := [("verdict", verdictTitle r.verdict), ("findings", toString r.data.findingsTotal),
      ("dependencies", toString r.data.dependenciesScanned),
      ("files", toString r.data.filesChecked)] }

/-- The configuration text read from a path, or the empty text with an event when there is
no file there. -/
def configOf (path : String) : Except IoError String → Except Failure (List LogEvent × String)
  | .ok text => .ok ([], text)
  | .error .notFound => .ok ([noConfig path], "")
  | .error e => .error ⟨["read config: " ++ path, e.message]⟩

/-- **The steps of `check`**, with the events they logged: the exit code when none failed. -/
def checkSteps (libs : ToolLibraries) (now : m Timestamp) (inv : Invocation) (reportOut : String)
    (writeMarkdown : Bool) (markdownOut : String) : m (List LogEvent × Except Failure Nat) := do
  let repoRoot := match ← FileSystem.realPath inv.repoRoot with
    | .ok p => p
    | .error _ => inv.repoRoot
  if !(← FileSystem.pathExists repoRoot) then
    return ([], .error (.of ("repo root does not exist: " ++ repoRoot)))
  let cfgPath := Path.join repoRoot inv.config
  match configOf cfgPath (← FileSystem.readText cfgPath) with
  | .error f => return ([], .error f)
  | .ok (start, text) =>
    match ← runChecks libs.toLibraries now repoRoot text ⟨inv.profile, inv.tree⟩ with
    | (log, .error f) => return (start ++ log, .error f)
    | (log, .ok (report, _)) =>
      let log := start ++ log ++ [finished report]
      match ← writeFile reportOut (report.renderWith libs.report) "write report: " with
      | .error f => return (log, .error (f.context "write report json"))
      | .ok () => pure ()
      if writeMarkdown then
        match ← writeFile markdownOut report.markdown "write text: " with
        | .error f => return (log, .error (f.context "write markdown"))
        | .ok () => pure ()
      pure (log, .ok report.verdict.exitCode)

/-- **The `check` command**, printing the events the filter `admits` lets through. -/
def check (libs : ToolLibraries) (now : m Timestamp) (admits : LogEvent → Bool)
    (inv : Invocation) (reportOut : String) (writeMarkdown : Bool) (markdownOut : String) :
    m Outcome := do
  let (log, result) ← checkSteps libs now inv reportOut writeMarkdown markdownOut
  let events := (log.filter admits).map ErrorPiece.event
  match result with
  | .ok code => pure { exitCode := code, stderr := events }
  | .error f =>
    let report := Report.runtimeError f.message (← now)
    let _ ← writeFile reportOut (report.renderWith libs.report) "write report: "
    pure { exitCode := 1, stderr := events ++ [.text ("pinguard error: " ++ f.message ++ "\n")] }

/-- **Read a report file** with the codec of report texts `codec`. -/
def readReport (codec : ReportCodec) (path : String) : m (Except CommandError Report) := do
  match ← FileSystem.readText path with
  | .error e => pure (.error ⟨⟨["read report: " ++ path, e.message]⟩, .io⟩)
  | .ok text =>
    match Report.readTextWith codec text with
    | .ok r => pure (.ok r)
    | .error refusal => pure (.error ⟨refusal.failure, refusalOrigin refusal⟩)

/-- **The `md` command**: print the report as Markdown, or write it to `output`. -/
def markdown (codec : ReportCodec) (backtrace : Origin → List String) (report : String)
    (output : Option String) : m Outcome := do
  match ← readReport codec report with
  | .error e => pure (e.outcome backtrace)
  | .ok r =>
    match output with
    | none => pure { exitCode := 0, stdout := r.markdown }
    | some out =>
      match ← writeFile out r.markdown "write text: " with
      | .ok () => pure { exitCode := 0 }
      | .error f => pure (CommandError.outcome backtrace ⟨f.context "write markdown output", .io⟩)

/-- **The `annotations` command**: print at most `max` annotations of the report, one a line. -/
def annotations (codec : ReportCodec) (backtrace : Origin → List String) (report : String)
    (max : Nat) : m Outcome := do
  match ← readReport codec report with
  | .error e => pure (e.outcome backtrace)
  | .ok r => pure { exitCode := 0, stdout := String.join ((r.annotations max).map (· ++ "\n")) }

/-- **The `explain` command.** -/
def explain (identifier : String) : Outcome :=
  match Explanation.lookup? identifier with
  | some e => { exitCode := 0, stdout := e.format }
  | none => { exitCode := 1, stderr := [.text (Explanation.notFound identifier)] }

/-- **Run the tool** on a command line with the libraries `libs`, the log filter text of the
environment, if any, and the runtime's backtrace frames for each origin of an error. -/
def runTool (libs : ToolLibraries) (now : m Timestamp) (env : Option String)
    (backtrace : Origin → List String) (words : List String) : m Outcome :=
  match Invocation.read words with
  | .error (.show text) => pure { exitCode := 0, stdout := text }
  | .error (.refuse text) => pure { exitCode := 2, stderr := [.text text] }
  | .ok inv =>
    match inv.task with
    | .check out writeMd mdOut =>
      check libs now (libs.logFilters.choose inv.verbose env) inv out writeMd mdOut
    | .markdown report output => markdown libs.report backtrace report output
    | .annotations report max => annotations libs.report backtrace report max
    | .explain identifier => pure (explain identifier)

end

end PinAudit.CommandLine
