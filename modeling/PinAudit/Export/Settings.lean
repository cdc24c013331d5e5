import PinAudit.Settings.Resolve
import PinAudit.Json.Value

/-!
# JSON export of settings

Effective settings as JSON: the profile, when a run fails, the tree, and each rule (or `null`
when it is off) with its severity, custom message and options.
-/

namespace PinAudit.Export

open Json

/-- The name of a failing level. -/
def failOnName : FailOn → String
  | .error => "error"
  | .warning => "warning"

/-- The dynamic-version rule. -/
def dynamicRule (r : RulePolicy DynamicPolicy) : Value :=
  let p := r.options
  .obj [("severity", .str r.severity.name), ("message", .ofOptString r.message),
    ("allow_snapshots", .bool p.allowSnapshots), ("allow_latest", .bool p.allowLatest),
    ("allow_release", .bool p.allowRelease), ("allow_ranges", .bool p.allowRanges),
    ("allow_ranges_with_identical_bounds", .bool p.allowIdenticalBounds),
    ("exclude_optionals", .bool p.excludeOptionals),
    ("excluded_scopes", .ofStrings p.excludedScopes), ("ignores", .ofStrings p.ignores)]

/-- A file rule. -/
def fileRule (r : RulePolicy FilePolicy) : Value :=
  let p := r.options
  .obj [("severity", .str r.severity.name), ("message", .ofOptString r.message),
    ("files", .ofStrings p.files), ("allow_nulls", .bool p.allowNulls),
    ("satisfy_any", .bool p.satisfyAny), ("case_sensitive", .bool p.caseSensitive)]

/-- An optional rule, `null` when off. -/
def optionalRule {α : Type} (f : α → Value) : Option α → Value
  | some r => f r
  | none => .null

/-- **Effective settings.** -/
def settings (s : Settings) : Value :=
  .obj [("profile", .str s.profile), ("fail_on", .str (failOnName s.failOn)),
    ("tree", .ofOptString s.tree),
    ("ban_dynamic_versions", optionalRule dynamicRule s.dynamicVersions),
    ("require_files_exist", optionalRule fileRule s.requireFilesExist),
    ("require_files_dont_exist", optionalRule fileRule s.requireFilesAbsent)]

end PinAudit.Export
