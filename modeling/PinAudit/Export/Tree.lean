import PinAudit.Export.Constraint
import PinAudit.Tree.Node
import PinAudit.Classify

/-!
# JSON export of coordinates, trees and classifications

A coordinate is exported with its five parts and its display; a node with its dependency's
display, its coordinate, scope and optional flag, its constraint, the number of nodes below it
and its children in order. A classification gives its name and, for a dynamic constraint, the
kind's description and code.
-/

namespace PinAudit.Export

open Json

/-- Coordinates with their display. -/
def coordinate (c : Coordinate) : Value :=
  .obj [("group", .str c.group), ("artifact", .str c.artifact), ("extension", .str c.extension),
    ("classifier", .str c.classifier), ("version", .str c.version), ("display", .str c.display)]

mutual

/-- A node and, recursively, its children. -/
def node : Node → Value
  | .node d cs =>
    .obj [("dependency", .str d.display), ("coordinate", coordinate d.coordinate),
      ("scope", .str d.scope), ("optional", .bool d.optional),
      ("constraint", constraint (Constraint.ofResolved d.coordinate.version)),
      ("descendants", .ofNat (Node.descendantsOf cs)), ("children", .arr (nodes cs))]

/-- Nodes in order. -/
def nodes : List Node → List Value
  | [] => []
  | c :: cs => node c :: nodes cs

end

/-- A classification with its kind. -/
def classification (c : Classification) : Value :=
  let (name, kind) : String × Option DynamicKind := match c with
    | .fixed => ("fixed", none)
    | .allowed k => ("allowed", some k)
    | .banned k => ("banned", some k)
    | .unrecognized => ("unrecognized", none)
  .obj [("classification", .str name), ("kind", .ofOptString (kind.map DynamicKind.describe)),
    ("code", .ofOptString (kind.map DynamicKind.code)), ("banned", .bool c.banned?.isSome)]

end PinAudit.Export
