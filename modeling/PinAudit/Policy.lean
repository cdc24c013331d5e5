/-!
# Policies

What the dynamic-version rule allows, and the options of the file rules.

A `DynamicPolicy` has six independent toggles, the scopes whose dependencies are excluded from
the audit, and exclusion patterns (`Artifact.Pattern`). A `FilePolicy` lists the files of a
file rule; an empty entry stands for "no file given".
-/

namespace PinAudit

/-- Scopes a dependency can carry. -/
def knownScopes : List String := ["compile", "provided", "runtime", "test", "system", "import"]

/-- **What the dynamic-version rule allows.** -/
structure DynamicPolicy where
  allowSnapshots : Bool := false
  allowLatest : Bool := false
  allowRelease : Bool := false
  allowRanges : Bool := false
  /-- Only meaningful while ranges in general are not allowed. -/
  allowIdenticalBounds : Bool := false
  excludeOptionals : Bool := false
  excludedScopes : List String := []
  /-- `group[:artifact[:version[:type[:scope[:classifier]]]]]` patterns. -/
  ignores : List String := []
  deriving DecidableEq, Repr

/-- **Options of a file rule.** -/
structure FilePolicy where
  files : List String := []
  allowNulls : Bool := false
  satisfyAny : Bool := false
  caseSensitive : Bool := true
  deriving DecidableEq, Repr

/-- Problems with a policy, found before any work starts. -/
inductive ConfigError where
  | invalidPattern (pattern : String) (reason : String)
  | unknownScope (scope : String)
  | emptyFileList
  deriving DecidableEq, Repr

/-- The problem as it is printed. -/
def ConfigError.message : ConfigError → String
  | .invalidPattern p r => "invalid exclusion pattern '" ++ p ++ "': " ++ r
  | .unknownScope s =>
    "unknown dependency scope '" ++ s ++
      "' (expected compile, provided, runtime, test, system or import)"
  | .emptyFileList => "The file list is empty and Null files are disabled."

/-- A file policy is valid unless it lists no file while empty entries are refused. -/
def FilePolicy.validate (p : FilePolicy) : Except ConfigError Unit :=
  if p.files.isEmpty && !p.allowNulls then .error .emptyFileList else .ok ()

/-- How severe a rule's findings are. -/
inductive Severity where
  | info
  | warning
  | error
  deriving DecidableEq, Repr

/-- The severity's name in reports. -/
def Severity.name : Severity → String
  | .info => "info"
  | .warning => "warning"
  | .error => "error"

/-- Which findings fail a run. -/
inductive FailOn where
  | error
  | warning
  deriving DecidableEq, Repr

end PinAudit
