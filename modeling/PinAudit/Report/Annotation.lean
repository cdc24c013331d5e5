import PinAudit.Report.Markdown

/-!
# Reports as workflow annotations

Each finding becomes one workflow command line of a continuous-integration log,
`::level file=path,line=n::message`, where the level is `notice`, `warning` or `error` by
severity, the `file` and `line` properties are there when the finding has a location (and a
line), and the message is `[check:code] message`.

The command syntax reserves some characters, which are written as `%` and two hex digits:
`%`, carriage return and line feed in the message and in properties, and also `:` and `,` in
properties.

Main definitions: `Finding.annotation`, `Report.annotations`.
-/

namespace PinAudit

/-- The annotation level of a severity. -/
def Severity.annotationLevel : Severity → String
  | .info => "notice"
  | .warning => "warning"
  | .error => "error"

/-- One character of a message, escaped. -/
def escapeDataChar (c : Char) : String :=
  if c == '%' then "%25"
  else if c == '\r' then "%0D"
  else if c == '\n' then "%0A"
  else c.toString

/-- One character of a property, escaped. -/
def escapePropertyChar (c : Char) : String :=
  if c == ':' then "%3A"
  else if c == ',' then "%2C"
  else escapeDataChar c

/-- A message with its reserved characters escaped. -/
def escapeData (s : String) : String := String.join (s.toList.map escapeDataChar)

/-- A property value with its reserved characters escaped. -/
def escapeProperty (s : String) : String := String.join (s.toList.map escapePropertyChar)

/-- **The annotation of a finding.** -/
def Finding.annotation (f : Finding) : String :=
  let message := escapeData ("[" ++ f.checkId ++ ":" ++ f.code ++ "] " ++ f.message)
  match f.location with
  | some l =>
    let line := match l.line with
      | some n => ",line=" ++ toString n
      | none => ""
    "::" ++ f.severity.annotationLevel ++ " file=" ++ escapeProperty l.path.text ++ line ++
      "::" ++ message
  | none => "::" ++ f.severity.annotationLevel ++ "::" ++ message

/-- **The annotations of a report**, at most `max` of them, in the order of the findings. -/
def Report.annotations (r : Report) (max : Nat) : List String :=
  (r.findings.map Finding.annotation).take max

end PinAudit
