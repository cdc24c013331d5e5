import PinAudit.Audit.Report
import PinAudit.Digest.Sha256

/-!
# Fingerprints and cache ids

Stable identifiers, each the hex digest of a canonical text by the digest library given (the
tool's is SHA-256, `Sha256.hex`):
- a violation's fingerprint hashes `check|code|dependency|path`, the path as in its message
  (empty for a direct dependency);
- a missing or unexpected file's fingerprint hashes `check|code|file`;
- a policy's cache id hashes its six toggles as `1`/`0`, its excluded scopes and ignore
  patterns sorted without repeats, and the root's coordinates, so that the order in which a
  configuration lists scopes and patterns does not matter;
- a file rule's cache id hashes its files, one per line.
-/

namespace PinAudit

/-- The items of a list sorted, each once. -/
def sortedUnique (xs : List String) : List String :=
  (xs.mergeSort fun a b => decide (a ≤ b)).eraseDups

/-- **A violation's fingerprint.** -/
def Violation.fingerprint (check code : String) (v : Violation)
    (digest : String → String := Sha256.hex) : String :=
  digest ("|".intercalate [check, code, v.dependency.display, v.dumpPath.getD ""])

/-- **A file finding's fingerprint.** -/
def fileFingerprint (check code file : String) (digest : String → String := Sha256.hex) :
    String :=
  digest ("|".intercalate [check, code, file])

/-- The canonical text of a policy and root. -/
def DynamicPolicy.canonical (p : DynamicPolicy) (root : Option Coordinate) : String :=
  let flag (b : Bool) := if b then "1" else "0"
  "snapshots=" ++ flag p.allowSnapshots ++ ";latest=" ++ flag p.allowLatest ++
    ";release=" ++ flag p.allowRelease ++ ";ranges=" ++ flag p.allowRanges ++
    ";identical=" ++ flag p.allowIdenticalBounds ++ ";optionals=" ++ flag p.excludeOptionals ++
    ";scopes=" ++ ",".intercalate (sortedUnique p.excludedScopes) ++
    ";ignores=" ++ ",".intercalate (sortedUnique p.ignores) ++
    ";root=" ++ (root.map Coordinate.display).getD ""

/-- **A policy's cache id** for a root. -/
def DynamicPolicy.cacheId (p : DynamicPolicy) (root : Option Coordinate)
    (digest : String → String := Sha256.hex) : String :=
  digest (p.canonical root)

/-- **A file rule's cache id.** -/
def filesCacheId (files : List String) (digest : String → String := Sha256.hex) : String :=
  digest ("\n".intercalate files)

end PinAudit
