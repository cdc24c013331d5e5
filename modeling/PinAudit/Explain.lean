/-!
# Explanations

Every check id and finding code has an explanation: a title, what it detects and why, how to
fix it, and an example before and after the fix. Codes share the text of their rule, with a
title and examples of their own.

An explanation is printed as a titled section (the title underlined with `=`), then the
sections *Remediation* and *Examples* (underlined with `-`), each example in a fenced block.
An unknown identifier is answered with the lists of known check ids and codes.

Main definitions: `Explanation.lookup?`, `Explanation.format`, `Explanation.notFound`.
-/

namespace PinAudit

/-- **An explanation** of a check or a code. -/
structure Explanation where
  title : String
  description : String
  remediation : String
  before : String
  after : String
  deriving DecidableEq, Repr

namespace Explanation

/-- The dynamic-version rule. -/
def banDynamicVersions : Explanation where
  title := "Ban Dynamic Versions"
  description := "Detects dependencies whose version has to be resolved at build time.

A version is dynamic when it is:
- a version range such as `[1.0,2.0)`
- one of the floating placeholders `LATEST` or `RELEASE`
- a pre-release ending in `-SNAPSHOT`

Dynamic versions make builds non-reproducible: the same sources can pull a
different artifact tomorrow. Every violation is reported with the path of
dependencies that brought it in."
  remediation := "Pin the dependency to a single fixed version, or relax the policy explicitly:

    [rules.ban_dynamic_versions]
    allow_snapshots = true
    allow_ranges_with_identical_bounds = true
    ignores = [\"com.example:*\"]

Ignored artifacts use `group[:artifact[:version[:type[:scope[:classifier]]]]]`
patterns where any segment may be `*`."
  before := "com.example:lib:jar:[1.0,2.0) (compile)
com.example:tool:jar:LATEST (compile)"
  after := "com.example:lib:jar:1.4.2 (compile)
com.example:tool:jar:3.0.1 (compile)"

/-- The rule requiring files to exist. -/
def requireExist : Explanation where
  title := "Require Files Exist"
  description := "Fails when any of the listed files is missing (or, with `satisfy_any`, when
none of them exists).

Matching is case-sensitive by default. With `case_sensitive = false` only the
file name is compared ignoring case; the parent directory must match exactly."
  remediation := "Create the missing files, or fix the paths in the rule configuration."
  before := "[rules.require_files_exist]
files = [\"LICENSE\", \"NOTICE\"]   # NOTICE is missing"
  after := "[rules.require_files_exist]
files = [\"LICENSE\"]"

/-- The rule requiring files not to exist. -/
def requireAbsent : Explanation where
  title := "Require Files Don't Exist"
  description := "Fails when any of the listed files exists. Useful for keeping generated or
local-only files out of a build."
  remediation := "Delete the listed files before building, or drop them from the rule."
  before := "[rules.require_files_dont_exist]
files = [\"debug.log\"]   # debug.log is present"
  after := "# debug.log removed from the working tree"

/-- An empty file name in a file rule. -/
def emptyFileName : Explanation where
  title := "Empty File Name"
  description := "A file rule lists an empty file name while `allow_nulls` is disabled."
  remediation := "Remove the empty entry, or set `allow_nulls = true` to treat it as satisfied."
  before := "[rules.require_files_exist]
files = [\"LICENSE\", \"\"]"
  after := "[rules.require_files_exist]
files = [\"LICENSE\"]"

/-- The known check ids. -/
def checkIds : List String :=
  ["deps.ban_dynamic_versions", "files.require_exist", "files.require_absent"]

/-- The known finding codes. -/
def codes : List String :=
  ["latest_version", "release_version", "snapshot_version", "version_range", "missing_file",
    "unexpected_file", "null_file"]

/-- **The explanation of a check id or code.** -/
def lookup? : String → Option Explanation
  | "deps.ban_dynamic_versions" => some banDynamicVersions
  | "files.require_exist" => some requireExist
  | "files.require_absent" => some requireAbsent
  | "latest_version" => some { banDynamicVersions with
      title := "LATEST Version", before := "com.example:tool:jar:LATEST (compile)",
      after := "com.example:tool:jar:3.0.1 (compile)" }
  | "release_version" => some { banDynamicVersions with
      title := "RELEASE Version", before := "com.example:tool:jar:RELEASE (compile)",
      after := "com.example:tool:jar:3.0.1 (compile)" }
  | "snapshot_version" => some { banDynamicVersions with
      title := "Snapshot Version", before := "com.example:lib:jar:1.1-SNAPSHOT (compile)",
      after := "com.example:lib:jar:1.1 (compile)" }
  | "version_range" => some { banDynamicVersions with
      title := "Version Range", before := "com.example:lib:jar:[1.0,2.0) (compile)",
      after := "com.example:lib:jar:1.4.2 (compile)\n# or, with " ++
        "allow_ranges_with_identical_bounds:\ncom.example:lib:jar:[1.4.2] (compile)" }
  | "missing_file" => some { requireExist with title := "Missing File" }
  | "unexpected_file" => some { requireAbsent with title := "Unexpected File" }
  | "null_file" => some emptyFileName
  | _ => none

/-- A title underlined with a character, then a blank line. -/
def heading (title : String) (rule : Char) : String :=
  title ++ "\n" ++ String.ofList (List.replicate title.length rule) ++ "\n\n"

/-- A labelled fenced block. -/
def fenced (label body : String) : String :=
  label ++ "\n```\n" ++ body ++ "\n```\n"

/-- **An explanation as printed.** -/
def format (e : Explanation) : String :=
  heading e.title '=' ++ e.description ++ "\n\n" ++
    heading "Remediation" '-' ++ e.remediation ++ "\n\n" ++
    heading "Examples" '-' ++ fenced "Before (violation):" e.before ++ "\n" ++
    fenced "After (fixed):" e.after

/-- **The answer for an unknown identifier**, listing the known ones. -/
def notFound (identifier : String) : String :=
  let bullets (items : List String) := String.join (items.map fun i => "  - " ++ i ++ "\n")
  "Unknown check_id or code: " ++ identifier ++ "\n\nAvailable check_ids:\n" ++
    bullets checkIds ++ "\nAvailable codes:\n" ++ bullets codes

end Explanation

end PinAudit
