import PinAudit.Artifact.Coordinate
import PinAudit.Version.Constraint

/-!
# Dependency trees

A resolved dependency tree: each node is a dependency with its children, in document order.
The version constraint of a node is read leniently from its coordinate's version text, so a
node always has one (`Constraint.ofResolved`). The root is the project itself; its children
are the direct dependencies, at depth 1.

Main definitions: `Node`, `Node.constraint`, `Node.descendantCount`, `Node.preorder`.
-/

namespace PinAudit

/-- **A node of a dependency tree**: a dependency and its children, in order. -/
inductive Node where
  | node (dependency : Dependency) (children : List Node)
  deriving Repr

namespace Node

/-- The node's dependency. -/
def dependency : Node → Dependency
  | node d _ => d

/-- The node's children, in order. -/
def children : Node → List Node
  | node _ cs => cs

/-- The node's coordinates. -/
def coordinate (n : Node) : Coordinate := n.dependency.coordinate

/-- **The node's version constraint**, read leniently from its version text. -/
def constraint (n : Node) : Constraint := Constraint.ofResolved n.coordinate.version

@[simp] theorem dependency_node (d : Dependency) (cs : List Node) :
    (node d cs).dependency = d := rfl

@[simp] theorem children_node (d : Dependency) (cs : List Node) :
    (node d cs).children = cs := rfl

mutual

/-- **The number of nodes below a node.** -/
def descendantCount : Node → Nat
  | node _ cs => descendantsOf cs

/-- The number of nodes in a list of subtrees. -/
def descendantsOf : List Node → Nat
  | [] => 0
  | c :: cs => 1 + descendantCount c + descendantsOf cs

end

mutual

/-- The nodes of a tree in document pre-order, the node itself first. -/
def preorder : Node → List Node
  | node d cs => node d cs :: preorderOf cs

/-- The pre-order of a list of subtrees, one after the other. -/
def preorderOf : List Node → List Node
  | [] => []
  | c :: cs => preorder c ++ preorderOf cs

end

end Node

end PinAudit
