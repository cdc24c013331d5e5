import PinAudit.Files.System
import PinAudit.Policy
import PinAudit.Failure
import PinAudit.Log
import PinAudit.Text.Case

/-!
# File rules

A file rule lists files that must exist, or must not. Each non-empty entry is joined to the
repository root and looked up; an empty entry is a failure of its own unless empty entries are
allowed. The rule passes when nothing failed or, with `satisfyAny`, when some entry did not
fail.

How an entry is looked up depends on whether the rule compares names with case and whether the
file system does:
- both alike: the path exists (following links);
- a case-blind rule on a case-sensitive system: the parent directory must exist and hold a
  name equal to the entry's last name after lower-casing both;
- a case-exact rule on a case-blind system: a symbolic link is looked for by its exact name in
  its parent's listing; any other path must exist and its real path be the same path as the
  joined one.
A failure to list a directory or to find a real path (other than the path missing) makes the
entry fail, whichever the rule.

Main definitions: `FileChecker.check`, `FileOutcome.failureMessage`.
-/

namespace PinAudit

/-- **The two file rules.** -/
inductive FileRuleKind where
  | requireExist
  | requireAbsent
  deriving DecidableEq, Repr

namespace FileRuleKind

/-- The rule's check id. -/
def checkId : FileRuleKind → String
  | .requireExist => "files.require_exist"
  | .requireAbsent => "files.require_absent"

/-- The code of a failed path. -/
def pathCode : FileRuleKind → String
  | .requireExist => "missing_file"
  | .requireAbsent => "unexpected_file"

/-- The header of the rule's failure message. -/
def header : FileRuleKind → String
  | .requireExist => "Some required files are missing:"
  | .requireAbsent => "Some files should not exist:"

end FileRuleKind

/-- **A failed entry**: an empty one, or a path with its absolute form. -/
inductive FileFailure where
  | empty
  | path (entry absolute : String)
  deriving DecidableEq, Repr

namespace FileFailure

/-- The failure's code. -/
def code (kind : FileRuleKind) : FileFailure → String
  | .empty => "null_file"
  | .path _ _ => kind.pathCode

/-- The entry as listed. -/
def entry : FileFailure → String
  | .empty => ""
  | .path e _ => e

/-- The failure as a message line. -/
def display : FileFailure → String
  | .empty => "(an empty filename was given and allowNulls is false)"
  | .path _ a => a

end FileFailure

/-- **The outcome of a file rule.** -/
structure FileOutcome where
  kind : FileRuleKind
  checked : Nat
  failures : List FileFailure
  passed : Bool
  deriving Repr

/-- **The failure message** of a rule that did not pass: the custom line, if any, the rule's
header, then one line per failure. -/
def FileOutcome.failureMessage (o : FileOutcome) (custom : Option String) : Option String :=
  if o.passed then none
  else some ("\n".intercalate
    (custom.toList ++ [o.kind.header] ++ o.failures.map FileFailure.display))

/-- **A file checker**: the repository root, and whether the file system compares names with
case. -/
structure FileChecker where
  root : String
  caseSensitiveFs : Bool

/-- Where the file rules log. -/
def filesTarget : String := "pinguard_repo::files"

/-- A warning of the file rules. -/
def filesWarning (message : String) : LogEvent :=
  { level := .warn, target := filesTarget, message }

namespace FileChecker

variable {m : Type → Type} [Monad m] [FileSystem m]

/-- Whether a directory holds a name, by a comparison of names. -/
def holds (dir : String) (same : String → Bool) : m (Except IoError Bool) := do
  match ← FileSystem.listDir dir with
  | .ok names => pure (.ok (names.any same))
  | .error e => pure (.error e)

/-- Look a path up by its name only, on a case-sensitive system. -/
def byLowerName (path : String) : m (Logged (Except IoError Bool)) := do
  let note := filesWarning
    "Case-insensitive checks on a case-sensitive filesystem are restricted to the name only"
  match Path.parent? path, Path.fileName? path with
  | some parent, some name =>
    if ← FileSystem.pathExists parent then
      let wanted := Text.lowerText name
      pure ([note], ← holds parent fun n => Text.lowerText n == wanted)
    else
      pure ([note, filesWarning ("Cannot find parent folder for '" ++ path ++ "', path casing?")],
        .ok false)
  | _, _ => pure ([note], .ok false)

/-- Look a path up exactly, on a case-blind system. -/
def byRealPath (path : String) : m (Logged (Except IoError Bool)) := do
  if ← FileSystem.isSymlink path then
    let note := filesWarning ("Case-sensitive checks on a case-insensitive filesystem of a " ++
      "symbolic links are restricted to the name only")
    match Path.parent? path, Path.fileName? path with
    | some parent, some name => pure ([note], ← holds parent (· == name))
    | _, _ => pure ([note], .ok false)
  else
    match ← FileSystem.realPath path with
    | .ok real => pure ([], .ok (Path.same real path))
    | .error .notFound => pure ([], .ok false)
    | .error e => pure ([], .error e)

/-- **Whether a path exists** under the checker's and the rule's treatment of case. -/
def lookUp (c : FileChecker) (path : String) (caseSensitive : Bool) :
    m (Logged (Except IoError Bool)) := do
  if c.caseSensitiveFs == caseSensitive then pure ([], .ok (← FileSystem.pathExists path))
  else if c.caseSensitiveFs then byLowerName path
  else byRealPath path

/-- Whether a path passes a rule; a failed look-up fails it, with a warning. -/
def passes (c : FileChecker) (kind : FileRuleKind) (path : String) (caseSensitive : Bool) :
    m (Logged Bool) := do
  let (log, found) ← c.lookUp path caseSensitive
  match found with
  | .ok b => pure (log, if kind == .requireExist then b else !b)
  | .error e =>
    pure (log ++ [filesWarning ("Failed to fully check for file '" ++ path ++
      "' due to exception '" ++ e.message ++ "'")], false)

/-- The failures of a list of entries, in order. -/
def failuresOf (c : FileChecker) (kind : FileRuleKind) (p : FilePolicy) :
    List String → m (Logged (List FileFailure))
  | [] => pure ([], [])
  | entry :: rest => do
    let (log, here) ← if entry.isEmpty then
        pure ([], if p.allowNulls then [] else [FileFailure.empty])
      else
        let path := Path.join c.root entry
        let (log, ok) ← c.passes kind path p.caseSensitive
        pure (log, if ok then [] else [FileFailure.path entry path])
    let (log', more) ← c.failuresOf kind p rest
    pure (log ++ log', here ++ more)

/-- **Check a file rule.** A policy that lists no file while refusing empty entries is refused
first. -/
def check (c : FileChecker) (kind : FileRuleKind) (p : FilePolicy) :
    m (Logged (Except Failure FileOutcome)) := do
  match p.validate with
  | .error e =>
    pure ([], .error ⟨["invalid configuration for " ++ kind.checkId, e.message]⟩)
  | .ok () =>
    let (log, failures) ← c.failuresOf kind p p.files
    let total := p.files.length
    let passed := if p.satisfyAny then total > failures.length else failures.isEmpty
    pure (log, .ok ⟨kind, total, failures, passed⟩)

end FileChecker

end PinAudit
