import PinAudit.Tree.Path

/-!
# Walking a tree

A walk visits the nodes below a root in document pre-order. A visitor is a state machine: on
*entering* a node it sees the node and its entered ancestors (root side first, the root itself
excluded) and answers whether to continue into the node's children or to skip them; on
*leaving* the node it is told so. Every entered node is left, after all its entered descendants
and before its next sibling is entered. A skipped node is still entered and left, but is not an
ancestor of anything.

The walk keeps the ancestors on one `AncestorPath`, threaded from each node to the next: a node
whose children are walked is entered on the path, the children are walked through its frame,
and the frame is dropped after them.

Main definitions: `Visitor`, `Node.walk`.
-/

namespace PinAudit

/-- What the walk does after a node is entered. -/
inductive Action where
  | continue
  | skipChildren
  deriving DecidableEq, Repr

/-- **A visitor** with state `σ`. `enter` sees the node and its entered ancestors, root side
first; `leave` is told when the node is left. -/
structure Visitor (σ : Type) where
  enter : σ → Node → List Node → σ × Action
  leave : σ → Node → σ := fun s _ => s

namespace Node

mutual

/-- Enter one node on the path, walk its children through the node's frame unless the visitor
skips them, and leave it: the visitor's state after it, and the path as the node's frame, if
any, left it. -/
def walkNode {σ : Type} (v : Visitor σ) (path : AncestorPath) (s : σ) : Node → σ × AncestorPath
  | node d cs =>
    let (s₁, act) := v.enter s (node d cs) path.nodes
    let (s₂, path₂) := match act with
      | .continue =>
        let frame := path.enter (node d cs)
        let (s', inner) := walkList v frame.path s₁ cs
        (s', PathFrame.drop { frame with path := inner })
      | .skipChildren => (s₁, path)
    (v.leave s₂ (node d cs), path₂)

/-- Walk siblings in order, each on the path the one before it left. -/
def walkList {σ : Type} (v : Visitor σ) (path : AncestorPath) (s : σ) :
    List Node → σ × AncestorPath
  | [] => (s, path)
  | c :: cs =>
    let (s', path') := walkNode v path s c
    walkList v path' s' cs

end

/-- **Walk the nodes below a root**, starting from visitor state `s` and an empty path. The root
itself is not entered. -/
def walk {σ : Type} (v : Visitor σ) (s : σ) (root : Node) : σ :=
  (walkList v {} s root.children).1

end Node

end PinAudit

namespace PinAudit

/-- What a walk does at a node: enter it (with its entered ancestors) or leave it. -/
inductive WalkEvent where
  | enter (n : Node) (ancestors : List Node)
  | leave (n : Node)

namespace Node

/-- **The events of a walk** below a root that skips the children of the nodes `skip` picks. -/
def trace (skip : Node → Bool) (root : Node) : List WalkEvent :=
  root.walk
    { enter := fun evs n path =>
        (evs ++ [.enter n path], if skip n then .skipChildren else .continue)
      leave := fun evs n => evs ++ [.leave n] }
    []

/-- The entered nodes of a full walk below a root, each with its ancestors before it. -/
def enteredPaths (root : Node) : List (List Node) :=
  root.walk { enter := fun acc n path => (acc ++ [path ++ [n]], .continue) } []

end Node

end PinAudit
