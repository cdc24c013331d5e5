import PinAudit.Tree.Node

/-!
# The ancestor path

While a walk is below the root it keeps the nodes it has entered and not yet left, root side
first and the root itself excluded: the ancestor path. Entering a node pushes it and gives a
frame (`AncestorPath.enter`), through which the path is seen, and changed, while the node is on
it. Only a frame pops, when it is dropped (`PathFrame.drop`): it pops the node on top of the
path it sees. A frame dropped on the path its entering gave pops the node it pushed and gives
back the path it was entered on (`PathFrame.drop_enter`).

Main definitions: `AncestorPath`, `PathFrame`, `AncestorPath.enter`, `PathFrame.drop`.
-/

namespace PinAudit

/-- **The ancestors of the node being visited**, root side first, the root excluded. -/
structure AncestorPath where
  nodes : List Node := []

namespace AncestorPath

/-- The number of ancestors on the path. -/
def len (p : AncestorPath) : Nat := p.nodes.length

/-- Whether no node is on the path. -/
def isEmpty (p : AncestorPath) : Bool := p.nodes.isEmpty

/-- The depth a child of the innermost ancestor sits at, a direct dependency of the root at 1. -/
def childDepth (p : AncestorPath) : Nat := p.nodes.length + 1

end AncestorPath

/-- **The scope of one pushed node**: the path as seen, and changed, while the node is on it. -/
structure PathFrame where
  path : AncestorPath

/-- **Enter a node**: push it on the path; it is popped again when the frame is dropped. -/
def AncestorPath.enter (p : AncestorPath) (n : Node) : PathFrame := ⟨⟨p.nodes ++ [n]⟩⟩

/-- **Drop a frame**: the node on top of the path it sees is popped. -/
def PathFrame.drop (f : PathFrame) : AncestorPath := ⟨f.path.nodes.dropLast⟩

@[simp] theorem AncestorPath.enter_path (p : AncestorPath) (n : Node) :
    (p.enter n).path = ⟨p.nodes ++ [n]⟩ := rfl

@[simp] theorem AncestorPath.len_enter (p : AncestorPath) (n : Node) :
    (p.enter n).path.len = p.len + 1 := by
  simp [len]

@[simp] theorem AncestorPath.childDepth_eq (p : AncestorPath) : p.childDepth = p.len + 1 := rfl

@[simp] theorem AncestorPath.isEmpty_iff (p : AncestorPath) : p.isEmpty = true ↔ p.len = 0 := by
  simp [isEmpty, len]

/-- **A frame dropped where it was entered gives the path back**: it pops exactly the node
it pushed. -/
@[simp] theorem PathFrame.drop_enter (p : AncestorPath) (n : Node) : (p.enter n).drop = p := by
  simp [drop]

end PinAudit
