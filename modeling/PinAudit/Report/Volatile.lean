import PinAudit.Json.Value

/-!
# The parts of a report that change from run to run

Two runs over the same repository give the same report but for the wall-clock times and, across
releases, the tool's version. `Json.Value.maskVolatile` replaces them with fixed markers so that
reports can be compared: every `started_at` and `finished_at` field, at any depth, becomes
`"__TIMESTAMP__"`; and the tool's version becomes `"__VERSION__"`, but only at the top of a
value that looks like a report (an object with `schema`, `tool`, `verdict` and `findings`)
and only when `tool` is an object with a `version`.

Main definitions: `Json.Value.maskVolatile`.
-/

namespace PinAudit.Json

/-- The fields that hold wall-clock times. -/
def timeFields : List String := ["started_at", "finished_at"]

/-- The marker that replaces a time. -/
def timeMarker : String := "__TIMESTAMP__"

/-- The marker that replaces the tool's version. -/
def versionMarker : String := "__VERSION__"

mutual

/-- Every time field at any depth replaced by the marker. -/
def Value.maskTimes : Value → Value
  | .arr items => .arr (Value.maskTimesIn items)
  | .obj fields => .obj (Value.maskTimesAt fields)
  | v => v

/-- `maskTimes` on the items of an array. -/
def Value.maskTimesIn : List Value → List Value
  | [] => []
  | v :: vs => v.maskTimes :: Value.maskTimesIn vs

/-- `maskTimes` on the fields of an object: a time field's value is replaced outright. -/
def Value.maskTimesAt : List (String × Value) → List (String × Value)
  | [] => []
  | (k, v) :: kvs =>
    (k, if timeFields.contains k then .str timeMarker else v.maskTimes) :: Value.maskTimesAt kvs

end

/-- Whether an object looks like a report. -/
def looksLikeReport (fields : List (String × Value)) : Bool :=
  ["schema", "tool", "verdict", "findings"].all fun k => (fields.lookup k).isSome

/-- The tool's version replaced by the marker, when the tool is an object with a version. -/
def maskVersion : Value → Value
  | .obj tool =>
    if (tool.lookup "version").isSome then
      .obj (tool.map fun (k, v) => if k == "version" then (k, .str versionMarker) else (k, v))
    else .obj tool
  | v => v

/-- **A value with its run-dependent parts masked.** -/
def Value.maskVolatile : Value → Value
  | .obj fields =>
    let fields :=
      if looksLikeReport fields then
        fields.map fun (k, v) => if k == "tool" then (k, maskVersion v) else (k, v)
      else fields
    (Value.obj fields).maskTimes
  | v => v.maskTimes

end PinAudit.Json
