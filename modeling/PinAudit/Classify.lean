import PinAudit.Version.Constraint
import PinAudit.Policy

/-!
# Dynamic versions

A version constraint is *dynamic* when it floats: the alias `LATEST` or `RELEASE`, a fixed
version ending in `-SNAPSHOT`, or a range. The rules are tried in that order and the first
that applies decides: a dynamic constraint is allowed or banned by the policy's toggle for its
kind. A range is allowed when ranges are, or when single-point ranges are and the range's
lowest and highest bounds are the same bound. An unrecognized constraint is never banned.

Main definitions: `DynamicKind`, `Classification`, `classify`.
-/

namespace PinAudit

/-- Kinds of dynamic versions. -/
inductive DynamicKind where
  | latest
  | release
  | snapshot
  | range
  deriving DecidableEq, Repr

namespace DynamicKind

/-- The code of a finding of this kind. -/
def code : DynamicKind → String
  | .latest => "latest_version"
  | .release => "release_version"
  | .snapshot => "snapshot_version"
  | .range => "version_range"

/-- The kind as it is described. -/
def describe : DynamicKind → String
  | .latest => "LATEST alias"
  | .release => "RELEASE alias"
  | .snapshot => "snapshot version"
  | .range => "version range"

end DynamicKind

/-- **How a constraint stands under a policy.** -/
inductive Classification where
  | fixed
  | allowed (k : DynamicKind)
  | banned (k : DynamicKind)
  | unrecognized
  deriving DecidableEq, Repr

/-- The dynamic kind of a constraint, if it is dynamic. -/
def dynamicKind? : Constraint → Option DynamicKind
  | .alias .latest => some .latest
  | .alias .release => some .release
  | .fixed v => if v.isSnapshot then some .snapshot else none
  | .range _ => some .range
  | .unrecognized _ => none

/-- Whether the policy allows a dynamic constraint of a kind. -/
def DynamicPolicy.allows (p : DynamicPolicy) (c : Constraint) : DynamicKind → Bool
  | .latest => p.allowLatest
  | .release => p.allowRelease
  | .snapshot => p.allowSnapshots
  | .range =>
    (p.allowIdenticalBounds && ((c.range?.map Range.hasIdenticalBounds).getD false)) ||
      p.allowRanges

/-- **Classify a constraint** under a policy. -/
def classify (c : Constraint) (p : DynamicPolicy) : Classification :=
  match c with
  | .unrecognized _ => .unrecognized
  | _ =>
    match dynamicKind? c with
    | none => .fixed
    | some k => if p.allows c k then .allowed k else .banned k

/-- The kind of a banned constraint. -/
def Classification.banned? : Classification → Option DynamicKind
  | .banned k => some k
  | _ => none

end PinAudit
