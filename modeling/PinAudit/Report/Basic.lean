import PinAudit.Policy
import PinAudit.Files.Path
import PinAudit.Json.Value
import PinAudit.Report.Timestamp

/-!
# Reports

A report is what one run of the checks leaves behind: the schema it follows, the tool that
wrote it, when the run started and finished, the verdict, the findings, and a summary of the
run (the profile, the rules evaluated, how many dependencies and files were looked at, how many
findings there are, and an identity for build caches when a dependency tree was audited).

A finding names the check and the code of what was found, says it in a message, and may point
at a file (and a line), say how to fix it, carry a stable fingerprint and a structured payload.

The verdict follows from the findings: any error fails the run; otherwise a warning fails it
when warnings are set to fail, and only warns when they are not; otherwise the run passes. A
failed run exits with status `2`, any other with `0`.

Main definitions: `Report`, `Finding`, `Verdict.of`, `Report.empty`, `Report.runtimeError`.
-/

namespace PinAudit

/-- The schema every report declares. -/
def reportSchema : String := "pinguard.report.v1"

/-- **The tool** that wrote a report. -/
structure ToolMeta where
  name : String
  version : String
  deriving DecidableEq, Repr

/-- This tool. -/
def ToolMeta.current : ToolMeta := ⟨"pinguard", "0.1.0"⟩

/-- **The outcome of a run.** -/
inductive Verdict where
  | pass
  | warn
  | fail
  deriving DecidableEq, Repr

namespace Verdict

/-- The verdict's name in reports. -/
def name : Verdict → String
  | .pass => "pass"
  | .warn => "warn"
  | .fail => "fail"

/-- The exit status of a run with this verdict. -/
def exitCode : Verdict → Nat
  | .fail => 2
  | _ => 0

end Verdict

/-- **Where a finding points**: a file and, perhaps, a line. -/
structure Location where
  path : RepoPath
  line : Option Nat := none
  deriving DecidableEq, Repr

/-- **A finding** of a check. -/
structure Finding where
  severity : Severity
  checkId : String
  code : String
  message : String
  location : Option Location := none
  help : Option String := none
  /-- A hash of the check, the code and what was found, stable across runs. -/
  fingerprint : Option String := none
  /-- A payload particular to the check; `null` when there is none. -/
  data : Json.Value := .null
  deriving Repr

/-- **The summary of a run.** -/
structure RunSummary where
  profile : String
  /-- The rules that were enabled, in the order they ran. -/
  rulesEvaluated : List String := []
  /-- Dependencies below the root of the tree that the audit looked at. -/
  dependenciesScanned : Nat := 0
  filesChecked : Nat := 0
  findingsTotal : Nat := 0
  /-- An identity for build caches, present when a dependency tree was audited. -/
  cacheId : Option String := none
  deriving DecidableEq, Repr

/-- **A report.** -/
structure Report where
  schema : String
  tool : ToolMeta
  startedAt : Timestamp
  finishedAt : Timestamp
  verdict : Verdict
  findings : List Finding
  data : RunSummary
  deriving Repr

/-- **The verdict of a list of findings.** -/
def Verdict.of (findings : List Finding) (failOn : FailOn) : Verdict :=
  if findings.any (·.severity == .error) then .fail
  else if findings.any (·.severity == .warning) then
    match failOn with
    | .warning => .fail
    | .error => .warn
  else .pass

namespace Report

/-- A passing report without findings, started and finished at one instant. -/
def empty (profile : String) (now : Timestamp) : Report where
  schema := reportSchema
  tool := ToolMeta.current
  startedAt := now
  finishedAt := now
  verdict := .pass
  findings := []
  data := { profile }

/-- The check that reports a failure of the tool itself. -/
def runtimeCheckId : String := "tool.runtime"

/-- **The report of a run that could not finish**: one error finding with the failure's
message, under the profile `unknown`. -/
def runtimeError (message : String) (now : Timestamp) : Report :=
  let r := empty "unknown" now
  { r with
    verdict := .fail
    findings := [{
      severity := .error
      checkId := runtimeCheckId
      code := "runtime_error"
      message
      help := some "Fix the tool error and re-run pinguard." }]
    data := { r.data with findingsTotal := 1 } }

end Report

end PinAudit
