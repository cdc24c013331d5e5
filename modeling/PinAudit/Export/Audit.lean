import PinAudit.Export.Tree
import PinAudit.Audit.Fingerprint

/-!
# JSON export of audit reports

A violation is exported with its dependency, path, constraint, kind and code, message and
fingerprint (for the dynamic-version rule); a report with its root, violations and counts,
message and the policy's cache id for its root.
-/

namespace PinAudit.Export

open Json

/-- The id of the dynamic-version rule. -/
def dynamicCheckId : String := "deps.ban_dynamic_versions"

/-- A violation. -/
def violation (v : Violation) : Value :=
  .obj [("dependency", .str v.dependency.display),
    ("path", .arr (v.path.map fun c => .str c.display)),
    ("dump_path", .ofOptString v.dumpPath), ("constraint", .str v.constraint.display),
    ("kind", .str v.kind.describe), ("code", .str v.kind.code), ("message", .str v.message),
    ("fingerprint", .str (v.fingerprint dynamicCheckId v.kind.code))]

/-- An audit report under a policy. -/
def auditReport (p : DynamicPolicy) (r : AuditReport) : Value :=
  .obj [("root", .ofOptString (r.root.map Coordinate.display)),
    ("violations", .arr (r.violations.map violation)),
    ("violation_count", .ofNat r.violations.length), ("clean", .bool r.isClean),
    ("nodes_visited", .ofNat r.nodesVisited),
    ("unrecognized_constraints", .ofNat r.unrecognized),
    ("message", .ofOptString r.message), ("cache_id", .str (p.cacheId r.root))]

end PinAudit.Export
