import PinAudit.Tree.Node

/-!
# Selecting a tree

A resolver prunes the tree it hands over: a node at depth 2 or more (a transitive dependency)
is dropped, with its whole subtree, when its scope is excluded or when it is optional and
optional dependencies are excluded. The root and the direct dependencies are always kept.

Main definitions: `Selector`, `Selector.select`, `Selector.prune`.
-/

namespace PinAudit

/-- **What a resolver prunes**: scopes to drop, and whether to drop optional dependencies. -/
structure Selector where
  excludedScopes : List String := []
  excludeOptionals : Bool := false
  deriving DecidableEq, Repr

namespace Selector

/-- **Whether a dependency at a depth is kept** (depth 1 for direct dependencies). -/
def select (s : Selector) (d : Dependency) (depth : Nat) : Bool :=
  depth < 2 || !(s.excludedScopes.contains d.scope || (s.excludeOptionals && d.optional))

mutual

/-- Prune the children of a node whose children sit at `depth`. -/
def pruneAt (s : Selector) (depth : Nat) : Node → Node
  | .node d cs => .node d (pruneList s depth cs)

/-- Keep the selected nodes of a list of siblings at `depth`, each pruned below. -/
def pruneList (s : Selector) (depth : Nat) : List Node → List Node
  | [] => []
  | c :: cs =>
    if s.select c.dependency depth then pruneAt s (depth + 1) c :: pruneList s depth cs
    else pruneList s depth cs

end

/-- **Prune a tree** from its root. -/
def prune (s : Selector) (root : Node) : Node := pruneAt s 1 root

end Selector

end PinAudit
