import PinAudit.Settings.Config
import PinAudit.Settings.Resolve
import PinAudit.Audit.TreeFile
import PinAudit.Audit.Fingerprint
import PinAudit.Files.Check
import PinAudit.Report.Basic

/-!
# Running the checks

A run reads the configuration (a blank text stands for the default configuration), resolves
it under the command line's overrides, and runs the enabled rules in a fixed order: the
dynamic-version rule over the dependency tree file, then the rule of files that must exist,
then the rule of files that must not. Every rule that runs is listed in the summary. Each
banned dependency and each failed file entry becomes a finding at the rule's severity, with a
help text, a fingerprint and a payload; the verdict follows from the findings.

The dynamic-version rule needs a tree: without one the run fails. Its findings point at the
tree file; a rule that found something also logs the rule's failure message, headed by the
rule's custom message when it has one.

A run calls four libraries, given to it as `Libraries`: a TOML reader for the configuration, a
glob library for exclusion patterns, a digest for fingerprints and cache ids, and a deserializer
for the entries of tree documents. `Libraries.tool` are those the tool runs.

Main definitions: `Libraries`, `runChecks`, `Settings.load`.
-/

namespace PinAudit

/-- Where a run logs. -/
def runTarget : String := "pinguard_app::check"

/-- The check of the dynamic-version rule. -/
def dynamicRuleId : String := "deps.ban_dynamic_versions"

/-- **The libraries a run calls**, each as the function of it the run uses. -/
structure Libraries where
  /-- Read a TOML document. -/
  toml : String → Except Toml.Error Toml.Value
  /-- Compile a glob to its matcher, or give the reason it is refused. -/
  glob : String → Except GlobError (String → Bool)
  /-- The hex digest of a text. -/
  digest : String → String
  /-- Read the entry of a tree document. -/
  readTree : String → Except Json.Error Document.Entry

/-- The libraries the tool runs. -/
def Libraries.tool : Libraries := ⟨Toml.parse, Segment.toolGlob, Sha256.hex, Document.read⟩

/-- **Read and resolve a configuration text** under overrides, with the TOML library `toml` and
the glob library `glob`. -/
def Settings.load (text : String) (o : Overrides)
    (toml : String → Except Toml.Error Toml.Value := Toml.parse)
    (glob : String → Except GlobError (String → Bool) := Segment.toolGlob) :
    Except Failure Settings := do
  let cfg ← if Text.allBlank text then pure {}
    else withContext "parse config" (ConfigFile.parse text toml)
  withContext "resolve config" (Settings.resolve cfg o glob)

/-- How to fix a banned dynamic version. -/
def DynamicKind.help : DynamicKind → String
  | .latest | .release => "Replace the alias with the exact version the build resolves today."
  | .snapshot => "Depend on a released version, or allow snapshots for this profile."
  | .range =>
    "Pin a single version, or use a single-point range such as [1.0] if ranges must stay."

/-- How to fix a failed file entry. -/
def FileFailure.help (kind : FileRuleKind) : FileFailure → String
  | .empty => "Remove the empty entry or set allow_nulls = true."
  | .path _ _ =>
    match kind with
    | .requireExist => "Add the file, or drop it from the rule's file list."
    | .requireAbsent => "Delete the file, or drop it from the rule's file list."

/-- **The finding of a banned dependency**, pointing at the tree file, its fingerprint by the
digest `digest`. -/
def Violation.finding (digest : String → String) (severity : Severity) (location : Location)
    (v : Violation) : Finding where
  severity
  checkId := dynamicRuleId
  code := v.kind.code
  message := v.message
  location := some location
  help := some v.kind.help
  fingerprint := some (v.fingerprint dynamicRuleId v.kind.code digest)
  data := .obj [("constraint", .str v.constraint.display),
    ("dependency", .str v.dependency.coordinate.display), ("optional", .bool v.dependency.optional),
    ("path", .arr (v.path.map fun c => .str c.display)), ("scope", .str v.dependency.scope)]

/-- **The finding of a failed file entry**, its fingerprint by the digest `digest`. -/
def FileFailure.finding (digest : String → String) (kind : FileRuleKind) (severity : Severity)
    (f : FileFailure) : Finding :=
  let code := f.code kind
  let (message, location) : String × Option Location :=
    match f with
    | .empty => (f.display, none)
    | .path entry absolute =>
      let message := match kind with
        | .requireExist => "Required file is missing: " ++ absolute
        | .requireAbsent => "File should not exist: " ++ absolute
      (message, some { path := RepoPath.ofString entry })
  { severity, checkId := kind.checkId, code, message, location, help := some (f.help kind),
    fingerprint := some (fileFingerprint kind.checkId code f.entry digest),
    data := .obj [("file", .str f.entry)] }

/-- A rule's failure message, headed by the rule's custom message when it has one. -/
def withCustomMessage (custom : Option String) (text : String) : String :=
  match custom with
  | some c => c ++ "\n" ++ text
  | none => text

/-- The event of a rule that failed: an error for an error rule, else a warning. -/
def ruleFailed (checkId : String) (severity : Severity) (message : String) : LogEvent :=
  { level := if severity == .error then .error else .warn, target := runTarget,
    message := "Rule " ++ checkId ++ " failed with message:\n" ++ message }

/-- What the rules have found so far. -/
structure Progress where
  findings : List Finding := []
  summary : RunSummary

/-- **Run the dynamic-version rule** over the tree file at `tree` (relative to the root). -/
def runDynamicRule {m : Type → Type} [Monad m] [FileSystem m] (libs : Libraries)
    (root tree : String) (rule : RulePolicy DynamicPolicy) (p : Progress) :
    m (Logged (Except Failure Progress)) := do
  match Auditor.new rule.options libs.glob with
  | .error e => pure ([], .error ⟨["invalid configuration for " ++ dynamicRuleId, e.message]⟩)
  | .ok a =>
    let path := Path.join root tree
    let contents ← FileSystem.readText path
    match a.run (treeFileCollector libs.readTree path contents) none with
    | (log, .error e) => pure (a.notes ++ log, .error e.failure)
    | (log, .ok r) =>
      let unclassified : List LogEvent :=
        if r.unrecognized > 0 then
          [{ level := .warn, target := runTarget,
             message := "some version constraints could not be classified",
             fields := [("count", toString r.unrecognized)] }]
        else []
      let location : Location := { path := RepoPath.ofString tree }
      let failed : List LogEvent := match r.message with
        | some text => [ruleFailed dynamicRuleId rule.severity (withCustomMessage rule.message text)]
        | none => []
      let s := p.summary
      pure (a.notes ++ log ++ unclassified ++ failed, .ok {
        findings := p.findings ++
          r.violations.map (Violation.finding libs.digest rule.severity location)
        summary := { s with
          rulesEvaluated := s.rulesEvaluated ++ [dynamicRuleId]
          dependenciesScanned := s.dependenciesScanned + r.nodesVisited
          cacheId := some (a.policy.cacheId r.root libs.digest) } })

/-- **Run a file rule**, with the digest `digest` for its cache id and fingerprints. -/
def runFileRule {m : Type → Type} [Monad m] [FileSystem m] (digest : String → String)
    (checker : FileChecker) (kind : FileRuleKind) (rule : RulePolicy FilePolicy) (p : Progress) :
    m (Logged (Except Failure Progress)) := do
  let start : LogEvent :=
    { level := .debug, target := runTarget,
      message := "checking " ++ toString rule.options.files.length ++ " file(s) for " ++
        kind.checkId,
      fields := [("cache_id", filesCacheId rule.options.files digest)] }
  match ← checker.check kind rule.options with
  | (log, .error f) => pure (start :: log, .error f)
  | (log, .ok o) =>
    let s := p.summary
    let p := { p with summary := { s with
      rulesEvaluated := s.rulesEvaluated ++ [kind.checkId]
      filesChecked := s.filesChecked + o.checked } }
    if o.passed then pure (start :: log, .ok p)
    else
      let failed : List LogEvent := match o.failureMessage rule.message with
        | some text => [ruleFailed kind.checkId rule.severity text]
        | none => []
      pure (start :: log ++ failed,
        .ok { p with
          findings := p.findings ++ o.failures.map (FileFailure.finding digest kind rule.severity) })

/-- Run a step when the previous ones succeeded, keeping the events of all. -/
def andThen {m : Type → Type} [Monad m] {α β : Type} (first : m (Logged (Except Failure α)))
    (next : α → m (Logged (Except Failure β))) : m (Logged (Except Failure β)) := do
  match ← first with
  | (log, .error f) => pure (log, .error f)
  | (log, .ok a) =>
    let (log', r) ← next a
    pure (log ++ log', r)

/-- The event of probing the file system for case sensitivity. -/
def probed (sensitive : Bool) : LogEvent :=
  { level := .debug, target := filesTarget, message := "Probed filesystem case sensitivity",
    fields := [("case_sensitive", if sensitive then "true" else "false")] }

/-- **Run the file rules** that are enabled, the rule of files that must exist first. -/
def runFileRules {m : Type → Type} [Monad m] [FileSystem m] (digest : String → String)
    (root : String) (s : Settings) (p : Progress) : m (Logged (Except Failure Progress)) := do
  if s.requireFilesExist.isNone && s.requireFilesAbsent.isNone then return ([], .ok p)
  let sensitive ← FileSystem.caseSensitive
  let checker : FileChecker := ⟨root, sensitive⟩
  let step (kind : FileRuleKind) (rule : Option (RulePolicy FilePolicy)) (p : Progress) :
      m (Logged (Except Failure Progress)) :=
    match rule with
    | some r => runFileRule digest checker kind r p
    | none => pure ([], .ok p)
  let (log, r) ← andThen (step .requireExist s.requireFilesExist p)
    (step .requireAbsent s.requireFilesAbsent)
  pure (probed sensitive :: log, r)

/-- **Run the checks** of a configuration text over the repository at `root`, with the libraries
`libs`, reading the clock when the run starts and when it ends. -/
def runChecks {m : Type → Type} [Monad m] [FileSystem m] (libs : Libraries) (now : m Timestamp)
    (root : String) (configText : String) (o : Overrides) :
    m (Logged (Except Failure (Report × Settings))) := do
  let startedAt ← now
  match Settings.load configText o libs.toml libs.glob with
  | .error f => pure ([], .error f)
  | .ok s =>
    let start : Progress := { summary := { profile := s.profile } }
    let dynamic : m (Logged (Except Failure Progress)) :=
      match s.dynamicVersions with
      | none => pure ([], .ok start)
      | some rule =>
        match s.tree with
        | some tree => runDynamicRule libs root tree rule start
        | none =>
          pure ([], .error (.of ("rule " ++ dynamicRuleId ++
            " needs a dependency tree; set `tree` in the config or pass --tree")))
    match ← andThen dynamic (runFileRules libs.digest root s) with
    | (log, .error f) => pure (log, .error f)
    | (log, .ok p) =>
      let finishedAt ← now
      let report : Report := {
        schema := reportSchema
        tool := ToolMeta.current
        startedAt, finishedAt
        verdict := Verdict.of p.findings s.failOn
        findings := p.findings
        data := { p.summary with findingsTotal := p.findings.length } }
      pure (log, .ok (report, s))

end PinAudit
