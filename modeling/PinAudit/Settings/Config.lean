import PinAudit.Toml.Parse
import PinAudit.Toml.Decode
import PinAudit.Failure

/-!
# The configuration file

The configuration is a TOML document with optional top-level keys `schema`, `profile`,
`fail_on` and `tree` (other top-level keys are ignored) and a table `rules` with up to three
rule tables. `rules` and the rule tables refuse keys they do not have. The document is read by
the TOML library the reader is given (the tool's is `Toml.parse`); the keys are read here.

- `[rules.ban_dynamic_versions]`: `enabled`, `severity`, `message`, the six toggles of the
  dynamic-version policy, `excluded_scopes` and `ignores`; every key optional.
- `[rules.require_files_exist]` and `[rules.require_files_dont_exist]`: `enabled`,
  `severity`, `message`, `files` (default none), `allow_nulls` and `satisfy_any` (default
  false), `case_sensitive` (default true).

Main definitions: `ConfigFile`, `ConfigFile.parse`.
-/

namespace PinAudit

/-- **The dynamic-version rule table**, each key optional. -/
structure DynamicTable where
  enabled : Option Bool := none
  severity : Option String := none
  message : Option String := none
  allowSnapshots : Option Bool := none
  allowLatest : Option Bool := none
  allowRelease : Option Bool := none
  allowRanges : Option Bool := none
  allowIdenticalBounds : Option Bool := none
  excludeOptionals : Option Bool := none
  excludedScopes : Option (List String) := none
  ignores : Option (List String) := none
  deriving Repr

/-- **A file rule table.** -/
structure FileTable where
  enabled : Option Bool := none
  severity : Option String := none
  message : Option String := none
  files : List String := []
  allowNulls : Bool := false
  satisfyAny : Bool := false
  caseSensitive : Bool := true
  deriving Repr

/-- **The rule tables.** -/
structure RuleTables where
  banDynamicVersions : Option DynamicTable := none
  requireFilesExist : Option FileTable := none
  requireFilesDontExist : Option FileTable := none
  deriving Repr

/-- **The configuration file.** -/
structure ConfigFile where
  schema : Option String := none
  profile : Option String := none
  failOn : Option String := none
  tree : Option String := none
  rules : RuleTables := {}
  deriving Repr

namespace ConfigFile

open Toml

/-- The keys of the dynamic-version rule table, in order. -/
def dynamicKeys : List String :=
  ["enabled", "severity", "message", "allow_snapshots", "allow_latest", "allow_release",
    "allow_ranges", "allow_ranges_with_identical_bounds", "exclude_optionals", "excluded_scopes",
    "ignores"]

/-- The keys of a file rule table, in order. -/
def fileKeys : List String :=
  ["enabled", "severity", "message", "files", "allow_nulls", "satisfy_any", "case_sensitive"]

/-- The keys of the rules table, in order. -/
def ruleKeys : List String :=
  ["ban_dynamic_versions", "require_files_exist", "require_files_dont_exist"]

/-- The keys of the file, in order. -/
def topKeys : List String := ["schema", "profile", "fail_on", "tree", "rules"]

/-- Set one key of the dynamic-version rule table. -/
def setDynamic (t : DynamicTable) (k : String) (v : Value) (s : Span) :
    Option (Decoded DynamicTable) :=
  match k with
  | "enabled" => some ((readBool v s).map fun b => { t with enabled := some b })
  | "severity" => some ((readString v s).map fun x => { t with severity := some x })
  | "message" => some ((readString v s).map fun x => { t with message := some x })
  | "allow_snapshots" => some ((readBool v s).map fun b => { t with allowSnapshots := some b })
  | "allow_latest" => some ((readBool v s).map fun b => { t with allowLatest := some b })
  | "allow_release" => some ((readBool v s).map fun b => { t with allowRelease := some b })
  | "allow_ranges" => some ((readBool v s).map fun b => { t with allowRanges := some b })
  | "allow_ranges_with_identical_bounds" =>
    some ((readBool v s).map fun b => { t with allowIdenticalBounds := some b })
  | "exclude_optionals" =>
    some ((readBool v s).map fun b => { t with excludeOptionals := some b })
  | "excluded_scopes" => some ((readStrings v s).map fun x => { t with excludedScopes := some x })
  | "ignores" => some ((readStrings v s).map fun x => { t with ignores := some x })
  | _ => none

/-- Set one key of a file rule table. -/
def setFile (t : FileTable) (k : String) (v : Value) (s : Span) : Option (Decoded FileTable) :=
  match k with
  | "enabled" => some ((readBool v s).map fun b => { t with enabled := some b })
  | "severity" => some ((readString v s).map fun x => { t with severity := some x })
  | "message" => some ((readString v s).map fun x => { t with message := some x })
  | "files" => some ((readStrings v s).map fun x => { t with files := x })
  | "allow_nulls" => some ((readBool v s).map fun b => { t with allowNulls := b })
  | "satisfy_any" => some ((readBool v s).map fun b => { t with satisfyAny := b })
  | "case_sensitive" => some ((readBool v s).map fun b => { t with caseSensitive := b })
  | _ => none

/-- Read the dynamic-version rule table. -/
def readDynamic (v : Value) (s : Span) : Decoded DynamicTable :=
  readFields "BanDynamicVersionsConfig" (some dynamicKeys) dynamicKeys ({} : DynamicTable) setDynamic v s

/-- Read a file rule table. -/
def readFile (v : Value) (s : Span) : Decoded FileTable :=
  readFields "FileRuleConfig" (some fileKeys) fileKeys ({} : FileTable) setFile v s

/-- Set one key of the rules table. -/
def setRules (t : RuleTables) (k : String) (v : Value) (s : Span) :
    Option (Decoded RuleTables) :=
  match k with
  | "ban_dynamic_versions" =>
    some ((readDynamic v s).map fun x => { t with banDynamicVersions := some x })
  | "require_files_exist" =>
    some ((readFile v s).map fun x => { t with requireFilesExist := some x })
  | "require_files_dont_exist" =>
    some ((readFile v s).map fun x => { t with requireFilesDontExist := some x })
  | _ => none

/-- Set one key of the file. -/
def setTop (t : ConfigFile) (k : String) (v : Value) (s : Span) : Option (Decoded ConfigFile) :=
  match k with
  | "schema" => some ((readString v s).map fun x => { t with schema := some x })
  | "profile" => some ((readString v s).map fun x => { t with profile := some x })
  | "fail_on" => some ((readString v s).map fun x => { t with failOn := some x })
  | "tree" => some ((readString v s).map fun x => { t with tree := some x })
  | "rules" =>
    some ((readFields "RuleTables" (some ruleKeys) ruleKeys ({} : RuleTables) setRules v s).map
      fun x => { t with rules := x })
  | _ => none

/-- **Read a configuration file** with the TOML library `toml`; an error is printed with the
line it is about. -/
def parse (text : String) (toml : String → Except Toml.Error Toml.Value := Toml.parse) :
    Except Failure ConfigFile :=
  let read := do
    let root ← toml text
    readFields "PinguardConfigV1" none topKeys ({} : ConfigFile) setTop root (Span.at 0)
  match read with
  | .ok c => .ok c
  | .error e => .error (.of (e.render text))

end ConfigFile

end PinAudit
