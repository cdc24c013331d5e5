import PinAudit.Report.Basic
import PinAudit.Json.Typed
import PinAudit.Json.Parse
import PinAudit.Json.Write
import PinAudit.Failure

/-!
# Reports as JSON

A report is written as a JSON object with its fields in declaration order: `schema`, `tool`,
`started_at`, `finished_at`, `verdict`, `findings`, `data`. An absent optional field is left
out, and so is a finding's payload when it is `null`. Timestamps are written in RFC 3339, and
the text is laid out pretty, two spaces per level.

Reading a report text (`Report.ofText`) parses the JSON, then checks the `schema` field before
anything else: a text whose `schema` is not this library's schema (a text without one, or
not an object, has the empty schema) is refused as a report of an unknown schema. Only then
is the value read as a report (`Json.Typed`): records may also be given as arrays of their
fields, and enumerations as single-key objects.

Writing the text and reading it back go through libraries: the JSON library's reader and pretty
writer, the time library's RFC 3339 writer, and the reader the serde derive gives the report.
`Report.renderWith` and `Report.readTextWith` take them as a parameter (`ReportCodec`), and the
tool runs `ReportCodec.tool`.

Main definitions: `Report.toJsonWith`, `ReportCodec`, `Report.renderWith`, `Report.readTextWith`,
`Report.render`, `Report.readText`, `Report.ofText`.
-/

namespace PinAudit

open Json

/-- A field when it is present. -/
def optionalField {α : Type} (key : String) (f : α → Value) : Option α → List (String × Value)
  | some a => [(key, f a)]
  | none => []

/-- A location as JSON. -/
def Location.toJson (l : Location) : Value :=
  .obj ([("path", .str l.path.text)] ++ optionalField "line" Value.ofNat l.line)

/-- A finding as JSON. -/
def Finding.toJson (f : Finding) : Value :=
  .obj ([("severity", .str f.severity.name), ("check_id", .str f.checkId),
      ("code", .str f.code), ("message", .str f.message)] ++
    optionalField "location" Location.toJson f.location ++
    optionalField "help" .str f.help ++
    optionalField "fingerprint" .str f.fingerprint ++
    (if f.data.isNull then [] else [("data", f.data)]))

/-- A run summary as JSON. -/
def RunSummary.toJson (d : RunSummary) : Value :=
  .obj ([("profile", .str d.profile), ("rules_evaluated", Value.ofStrings d.rulesEvaluated),
      ("dependencies_scanned", Value.ofNat d.dependenciesScanned),
      ("files_checked", Value.ofNat d.filesChecked),
      ("findings_total", Value.ofNat d.findingsTotal)] ++
    optionalField "cache_id" .str d.cacheId)

namespace Report

/-- **A report as JSON**, fields in declaration order, its times written by `formatTime`. -/
def toJsonWith (formatTime : Timestamp → String) (r : Report) : Value :=
  .obj [("schema", .str r.schema),
    ("tool", .obj [("name", .str r.tool.name), ("version", .str r.tool.version)]),
    ("started_at", .str (formatTime r.startedAt)), ("finished_at", .str (formatTime r.finishedAt)),
    ("verdict", .str r.verdict.name), ("findings", .arr (r.findings.map Finding.toJson)),
    ("data", r.data.toJson)]

/-- A report as JSON, its times in RFC 3339. -/
def toJson (r : Report) : Value := r.toJsonWith Timestamp.render

end Report

/-! ### Reading -/

namespace ReportJson

/-- A severity from its name. -/
def severity : Value → Except String Severity :=
  Value.readVariant [("info", .info), ("warning", .warning), ("error", .error)]

/-- A verdict from its name. -/
def verdict : Value → Except String Verdict :=
  Value.readVariant [("pass", .pass), ("warn", .warn), ("fail", .fail)]

/-- A timestamp in RFC 3339. -/
def timestamp : Value → Except String Timestamp
  | .str s =>
    match Timestamp.parse s with
    | .ok t => .ok t
    | .error e => .error e.message
  | v => .error (invalidType v.unexpected "an RFC3339-formatted `OffsetDateTime`")

/-- A path in a report, kept as written. -/
def path (v : Value) : Except String RepoPath := RepoPath.mk <$> v.readString

/-- Any value. -/
def payload (v : Value) : Except String Value := .ok v

/-- The shape of the tool record. -/
def toolShape : Shape :=
  ⟨"ToolMeta", [("name", Shape.check Value.readString), ("version", Shape.check Value.readString)]⟩

/-- The tool record. -/
def tool : Value → Except String ToolMeta :=
  Value.readRecord toolShape do
    let name ← field "name" .required Value.readString
    let version ← field "version" .required Value.readString
    pure ⟨name, version⟩

/-- The shape of a location. -/
def locationShape : Shape :=
  ⟨"Location", [("path", Shape.check path), ("line", Shape.check (Value.readOption Value.readU32))]⟩

/-- A location. -/
def location : Value → Except String Location :=
  Value.readRecord locationShape do
    let p ← field "path" .required path
    let line ← field "line" (.optional none) (Value.readOption Value.readU32)
    pure ⟨p, line⟩

/-- The shape of a finding. -/
def findingShape : Shape :=
  ⟨"Finding", [("severity", Shape.check severity), ("check_id", Shape.check Value.readString),
    ("code", Shape.check Value.readString), ("message", Shape.check Value.readString),
    ("location", Shape.check (Value.readOption location)),
    ("help", Shape.check (Value.readOption Value.readString)),
    ("fingerprint", Shape.check (Value.readOption Value.readString)),
    ("data", Shape.check payload)]⟩

/-- A finding. -/
def finding : Value → Except String Finding :=
  Value.readRecord findingShape do
    let severity ← field "severity" .required severity
    let checkId ← field "check_id" .required Value.readString
    let code ← field "code" .required Value.readString
    let message ← field "message" .required Value.readString
    let location ← field "location" (.optional none) (Value.readOption location)
    let help ← field "help" (.optional none) (Value.readOption Value.readString)
    let fingerprint ← field "fingerprint" (.optional none) (Value.readOption Value.readString)
    let data ← field "data" (.fallback .null) payload
    pure ⟨severity, checkId, code, message, location, help, fingerprint, data⟩

/-- The shape of a run summary. -/
def summaryShape : Shape :=
  ⟨"PinguardData", [("profile", Shape.check Value.readString),
    ("rules_evaluated", Shape.check (Value.readList Value.readString)),
    ("dependencies_scanned", Shape.check Value.readU32),
    ("files_checked", Shape.check Value.readU32),
    ("findings_total", Shape.check Value.readU32),
    ("cache_id", Shape.check (Value.readOption Value.readString))]⟩

/-- A run summary. -/
def summary : Value → Except String RunSummary :=
  Value.readRecord summaryShape do
    let profile ← field "profile" .required Value.readString
    let rules ← field "rules_evaluated" .required (Value.readList Value.readString)
    let scanned ← field "dependencies_scanned" .required Value.readU32
    let checked ← field "files_checked" .required Value.readU32
    let total ← field "findings_total" .required Value.readU32
    let cacheId ← field "cache_id" (.optional none) (Value.readOption Value.readString)
    pure ⟨profile, rules, scanned, checked, total, cacheId⟩

/-- The shape of a report. -/
def reportShape : Shape :=
  ⟨"ReportEnvelope", [("schema", Shape.check Value.readString), ("tool", Shape.check tool),
    ("started_at", Shape.check timestamp), ("finished_at", Shape.check timestamp),
    ("verdict", Shape.check verdict), ("findings", Shape.check (Value.readList finding)),
    ("data", Shape.check summary)]⟩

/-- A report. -/
def report : Value → Except String Report :=
  Value.readRecord reportShape do
    let schema ← field "schema" .required Value.readString
    let tool ← field "tool" .required tool
    let startedAt ← field "started_at" .required timestamp
    let finishedAt ← field "finished_at" .required timestamp
    let verdict ← field "verdict" .required verdict
    let findings ← field "findings" .required (Value.readList finding)
    let data ← field "data" .required summary
    pure ⟨schema, tool, startedAt, finishedAt, verdict, findings, data⟩

end ReportJson

/-- **Why a report text was refused.** -/
inductive ReportRefusal where
  /-- The text is not JSON. -/
  | notJson (message : String)
  /-- The text declares another schema. -/
  | unknownSchema (schema : String)
  /-- The text declares this library's schema but is not a report. -/
  | notReport (message : String)
  deriving DecidableEq, Repr

/-- The refusal as a failure, each part of it a context of the next. -/
def ReportRefusal.failure : ReportRefusal → Failure
  | .notJson m => ⟨["parse report json", m]⟩
  | .unknownSchema s => .of ("unknown report schema: " ++ s ++ " (expected " ++ reportSchema ++ ")")
  | .notReport m => ⟨["parse pinguard report", m]⟩

/-- **The libraries a report's text goes through**: the JSON library's reader and pretty
writer, the time library's RFC 3339 writer, and the reader the serde derive gives the report. -/
structure ReportCodec where
  /-- Read a JSON text as a value. -/
  parse : String → Except Json.Error Value
  /-- Write a value as JSON text, two spaces per level. -/
  pretty : Value → String
  /-- Write a time in RFC 3339. -/
  formatTime : Timestamp → String
  /-- Read a report from a value. -/
  decode : Value → Except String Report

/-- The libraries as the tool runs them. -/
def ReportCodec.tool : ReportCodec :=
  ⟨Json.parse, (·.pretty 0), Timestamp.render, ReportJson.report⟩

namespace Report

/-- **The text of a report** through the libraries `c`: its value written pretty. -/
def renderWith (c : ReportCodec) (r : Report) : String := c.pretty (r.toJsonWith c.formatTime)

/-- **The text of a report** as the tool writes it: pretty JSON. -/
def render (r : Report) : String := r.renderWith ReportCodec.tool

/-- The schema a value declares: its `schema` field when that is a string, else empty. -/
def declaredSchema (v : Value) : String := ((v.field? "schema").bind Value.str?).getD ""

/-- **Read a report** from a JSON value with the reader `decode`, refusing a value of another
schema before reading it. -/
def readWith (decode : Value → Except String Report) (v : Value) : Except ReportRefusal Report :=
  let schema := declaredSchema v
  if schema != reportSchema then .error (.unknownSchema schema)
  else
    match decode v with
    | .ok r => .ok r
    | .error m => .error (.notReport m)

/-- **Read a report** from a JSON value, as the tool does. -/
def read (v : Value) : Except ReportRefusal Report := readWith ReportJson.report v

/-- **Read a report text** through the libraries `c`. -/
def readTextWith (c : ReportCodec) (text : String) : Except ReportRefusal Report :=
  match c.parse text with
  | .ok v => readWith c.decode v
  | .error e => .error (.notJson e.message)

/-- **Read a report text**, as the tool does. -/
def readText (text : String) : Except ReportRefusal Report := readTextWith ReportCodec.tool text

/-- Read a report from a JSON value, failing with the refusal's messages. -/
def ofJson (v : Value) : Except Failure Report := (read v).mapError ReportRefusal.failure

/-- Read a report text, failing with the refusal's messages. -/
def ofText (text : String) : Except Failure Report := (readText text).mapError ReportRefusal.failure

end Report

end PinAudit
