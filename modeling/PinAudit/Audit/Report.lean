import PinAudit.Classify
import PinAudit.Tree.Node

/-!
# Audit reports

An audit of a dependency tree reports each dependency whose version is dynamic in a way the
policy bans, with the path of ancestors through which it was reached (the root excluded), and
counts the nodes it inspected and the constraints it could not recognize.

A violation reads `Dependency <dependency> [via <a> -> <b>] is referenced with a banned dynamic
version <constraint>`; the report's message lists them under a count line.
-/

namespace PinAudit

/-- **A banned dynamic version** found in a tree. -/
structure Violation where
  dependency : Dependency
  /-- Coordinates of the ancestors, root side first, the root excluded. -/
  path : List Coordinate
  constraint : Constraint
  kind : DynamicKind
  deriving Repr

namespace Violation

/-- The ancestors joined by ` -> `, if there are any. -/
def dumpPath (v : Violation) : Option String :=
  if v.path.isEmpty then none else some (" -> ".intercalate (v.path.map Coordinate.display))

/-- **The violation as a sentence.** -/
def message (v : Violation) : String :=
  "Dependency " ++ v.dependency.display ++
    (match v.dumpPath with
     | some p => " via " ++ p
     | none => "") ++
    " is referenced with a banned dynamic version " ++ v.constraint.display

end Violation

/-- **What an audit found.** -/
structure AuditReport where
  root : Option Coordinate := none
  violations : List Violation := []
  nodesVisited : Nat := 0
  unrecognized : Nat := 0
  deriving Repr

namespace AuditReport

/-- No violation was found. -/
def isClean (r : AuditReport) : Bool := r.violations.isEmpty

/-- **The report's message**: a count line and one line per violation; none when clean. -/
def message (r : AuditReport) : Option String :=
  match r.violations with
  | [] => none
  | vs =>
    let noun := if vs.length == 1 then "dependency" else "dependencies"
    some ("\n".intercalate
      (("Found " ++ toString vs.length ++ " " ++ noun ++ " with dynamic versions:") ::
        vs.map Violation.message))

end AuditReport

end PinAudit
