import PinAudit.Settings.Config
import PinAudit.Audit.Auditor

/-!
# Effective settings

The settings a run uses, from a profile, the configuration file and the command line.

- The profile is the command line's, else the file's, else `strict`. `strict` turns the
  dynamic-version rule on with severity `error`; `warn` with severity `warning` and fails on
  warnings; `compat` with severity `error` but allows snapshots and single-point ranges.
- The tree is the command line's, else the file's.
- `fail_on` (`error`, or `warning`/`warn`) replaces the profile's.
- A rule table with `enabled = false` turns its rule off. Otherwise the dynamic-version table
  overrides the profile's rule key by key and its policy must be valid; a file rule table
  defines its rule, whose file list must not be empty unless empty entries are allowed. A
  rule's severity defaults to the profile's dynamic-version severity.

Main definitions: `Settings`, `Settings.resolve`.
-/

namespace PinAudit

/-- A rule's severity, custom message and options. -/
structure RulePolicy (α : Type) where
  severity : Severity
  message : Option String := none
  options : α
  deriving Repr

/-- **The settings a run uses.** -/
structure Settings where
  profile : String
  failOn : FailOn
  tree : Option String := none
  dynamicVersions : Option (RulePolicy DynamicPolicy)
  requireFilesExist : Option (RulePolicy FilePolicy) := none
  requireFilesAbsent : Option (RulePolicy FilePolicy) := none
  deriving Repr

/-- What the command line overrides. -/
structure Overrides where
  profile : Option String := none
  tree : Option String := none
  deriving Repr

namespace Settings

/-- The profile used when none is named. -/
def defaultProfile : String := "strict"

/-- **The settings of a profile.** -/
def preset? : String → Option Settings
  | "strict" => some ⟨"strict", .error, none, some ⟨.error, none, {}⟩, none, none⟩
  | "warn" => some ⟨"warn", .warning, none, some ⟨.warning, none, {}⟩, none, none⟩
  | "compat" =>
    some ⟨"compat", .error, none,
      some ⟨.error, none, { allowSnapshots := true, allowIdenticalBounds := true }⟩, none, none⟩
  | _ => none

/-- The severity a rule gets when its table names none. -/
def defaultSeverity (s : Settings) : Severity :=
  (s.dynamicVersions.map RulePolicy.severity).getD .error

/-- Read a severity. -/
def parseSeverity : String → Except Failure Severity
  | "info" => .ok .info
  | "warning" | "warn" => .ok .warning
  | "error" => .ok .error
  | other => .error (.of ("unknown severity: " ++ other ++ " (expected info|warning|error)"))

/-- Read when a run fails. -/
def parseFailOn : String → Except Failure FailOn
  | "error" => .ok .error
  | "warning" | "warn" => .ok .warning
  | other => .error (.of ("unknown fail_on: " ++ other ++ " (expected error|warning)"))

/-- A toggle overridden when the table sets it. -/
def toggle (current : Bool) : Option Bool → Bool
  | some b => b
  | none => current

/-- The dynamic-version rule after its table, its policy checked with the glob library `glob`. -/
def applyDynamic (preset : Option (RulePolicy DynamicPolicy)) (t : DynamicTable)
    (dflt : Severity) (glob : String → Except GlobError (String → Bool) := Segment.toolGlob) :
    Except Failure (Option (RulePolicy DynamicPolicy)) := do
  if t.enabled == some false then return none
  let rule := preset.getD ⟨dflt, none, {}⟩
  let severity ← match t.severity with
    | some s => parseSeverity s
    | none => pure rule.severity
  let message := match t.message with
    | some m => some m
    | none => rule.message
  let p := rule.options
  let p : DynamicPolicy := { p with
    allowSnapshots := toggle p.allowSnapshots t.allowSnapshots
    allowLatest := toggle p.allowLatest t.allowLatest
    allowRelease := toggle p.allowRelease t.allowRelease
    allowRanges := toggle p.allowRanges t.allowRanges
    allowIdenticalBounds := toggle p.allowIdenticalBounds t.allowIdenticalBounds
    excludeOptionals := toggle p.excludeOptionals t.excludeOptionals
    excludedScopes := t.excludedScopes.getD p.excludedScopes
    ignores := t.ignores.getD p.ignores }
  match Auditor.new p glob with
  | .error e => .error (.of e.message)
  | .ok _ => pure (some ⟨severity, message, p⟩)

/-- A file rule from its table. -/
def fileRule (t : FileTable) (dflt : Severity) : Except Failure (Option (RulePolicy FilePolicy)) := do
  if t.enabled == some false then return none
  let severity ← match t.severity with
    | some s => parseSeverity s
    | none => pure dflt
  let options : FilePolicy := ⟨t.files, t.allowNulls, t.satisfyAny, t.caseSensitive⟩
  match options.validate with
  | .error e => .error (.of e.message)
  | .ok () => pure (some ⟨severity, t.message, options⟩)

/-- **Resolve the settings** of a configuration file under command-line overrides, checking
exclusion patterns with the glob library `glob`. -/
def resolve (cfg : ConfigFile) (o : Overrides)
    (glob : String → Except GlobError (String → Bool) := Segment.toolGlob) :
    Except Failure Settings := do
  let profile := (o.profile.orElse fun _ => cfg.profile).getD defaultProfile
  let some base := preset? profile
    | .error (.of ("unknown profile: " ++ profile ++ " (expected strict|warn|compat)"))
  let dflt := base.defaultSeverity
  let s := { base with tree := o.tree.orElse fun _ => cfg.tree }
  let s ← match cfg.failOn with
    | some f => do
      let failOn ← parseFailOn f
      pure { s with failOn }
    | none => pure s
  let s ← match cfg.rules.banDynamicVersions with
    | some t => do
      let rule ← withContext "invalid configuration for deps.ban_dynamic_versions"
        (applyDynamic s.dynamicVersions t dflt glob)
      pure { s with dynamicVersions := rule }
    | none => pure s
  let s ← match cfg.rules.requireFilesExist with
    | some t => do
      let rule ← withContext "invalid configuration for files.require_exist" (fileRule t dflt)
      pure { s with requireFilesExist := rule }
    | none => pure s
  match cfg.rules.requireFilesDontExist with
  | some t => do
    let rule ← withContext "invalid configuration for files.require_absent" (fileRule t dflt)
    pure { s with requireFilesAbsent := rule }
  | none => pure s

end Settings

end PinAudit
