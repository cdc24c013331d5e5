import PinAudit.Report.Basic

/-!
# Reports as Markdown

A report read by people, as a pull-request comment: a title, a summary list (verdict, profile,
dependencies scanned, files checked, findings), then either `No findings.` or a `Findings`
section with one list item per finding: its severity tag, check and code in code spans, the
message, the location in a code span when there is one, and the help as a nested item.

Main definitions: `Report.markdown`.
-/

namespace PinAudit

/-- The tag of a severity in Markdown. -/
def Severity.tag : Severity → String
  | .info => "INFO"
  | .warning => "WARN"
  | .error => "ERROR"

/-- The verdict in capitals. -/
def Verdict.tag : Verdict → String
  | .pass => "PASS"
  | .warn => "WARN"
  | .fail => "FAIL"

/-- A location as `path` or `path:line`. -/
def Location.display (l : Location) : String :=
  match l.line with
  | some n => l.path.text ++ ":" ++ toString n
  | none => l.path.text

/-- The list item of a finding, with its help as a nested item. -/
def Finding.markdown (f : Finding) : String :=
  "- [" ++ f.severity.tag ++ "] `" ++ f.checkId ++ "` / `" ++ f.code ++ "`: " ++ f.message ++
    (match f.location with
     | some l => " (`" ++ l.display ++ "`)"
     | none => "") ++ "\n" ++
    (match f.help with
     | some h => "  - help: " ++ h ++ "\n"
     | none => "")

/-- **A report in Markdown.** -/
def Report.markdown (r : Report) : String :=
  let summary := [
    "- Verdict: **" ++ r.verdict.tag ++ "**",
    "- Profile: `" ++ r.data.profile ++ "`",
    "- Dependencies scanned: " ++ toString r.data.dependenciesScanned,
    "- Files checked: " ++ toString r.data.filesChecked,
    "- Findings: " ++ toString r.data.findingsTotal]
  let head := "# Pinguard report\n\n" ++ String.join (summary.map (· ++ "\n")) ++ "\n"
  if r.findings.isEmpty then head ++ "No findings.\n"
  else head ++ "## Findings\n\n" ++ String.join (r.findings.map Finding.markdown)

end PinAudit
