/-!
# Failures with causes

A failure is a chain of messages, the outermost first, each explaining the one after it. It is
printed with the messages joined by `": "`, so `read dependency tree x` caused by
`No such file or directory (os error 2)` reads `read dependency tree x: No such file or
directory (os error 2)`.
-/

namespace PinAudit

/-- **A failure**: messages from the outermost context to the root cause. -/
structure Failure where
  causes : List String
  deriving DecidableEq, Repr, Inhabited

namespace Failure

/-- A failure with one message. -/
def of (message : String) : Failure := ⟨[message]⟩

/-- Put a context in front of a failure. -/
def context (outer : String) (f : Failure) : Failure := ⟨outer :: f.causes⟩

/-- **The printed failure**: its messages joined by `": "`. -/
def message (f : Failure) : String := ": ".intercalate f.causes

/-- The outermost message alone. -/
def headline (f : Failure) : String := f.causes.head?.getD ""

end Failure

/-- Add a context to the failure of a computation. -/
def withContext {α : Type} (outer : String) : Except Failure α → Except Failure α
  | .ok a => .ok a
  | .error f => .error (f.context outer)

end PinAudit
