import PinAudit.Audit.Report
import PinAudit.Artifact.Pattern
import PinAudit.Tree.Walk
import PinAudit.Tree.Select
import PinAudit.Tree.Document
import PinAudit.Failure
import PinAudit.Log

/-!
# Auditing a dependency tree

An auditor walks a tree below its root in document order. Each node is counted; an excluded
node (excluded scope, optional while optionals are excluded, or matched by an ignore pattern)
is passed over, but its children are still audited. Otherwise its constraint is classified:
a banned one is a violation and its subtree is not entered, an unrecognized one is counted.

An audit run first checks the policy (its scopes, then its patterns), then asks a resolver for
the tree, pruned by the policy's selector, and audits it.

Main definitions: `Auditor.new`, `Auditor.audit`, `runAudit`.
-/

namespace PinAudit

/-- The selector a policy asks a resolver for. -/
def DynamicPolicy.selector (p : DynamicPolicy) : Selector :=
  ⟨p.excludedScopes, p.excludeOptionals⟩

/-- **What is asked of a resolver**: the expected root, if any, and how to prune. -/
structure CollectRequest where
  root : Option Coordinate := none
  selector : Selector := {}

/-- The root's coordinates, or `project` when none is expected. -/
def CollectRequest.rootLabel (r : CollectRequest) : String :=
  (r.root.map Coordinate.display).getD "project"

/-- **An auditor**: a checked policy and its compiled ignore patterns. -/
structure Auditor where
  policy : DynamicPolicy
  matcher : Matcher

/-- Where the audit logs. -/
def engineTarget : String := "pinguard_domain::engine"

namespace Auditor

/-- **Check a policy**: every excluded scope must be known, then every pattern valid. -/
def new (p : DynamicPolicy)
    (glob : String → Except GlobError (String → Bool) := Segment.toolGlob) :
    Except ConfigError Auditor := do
  match p.excludedScopes.find? fun s => !knownScopes.contains s with
  | some s => throw (.unknownScope s)
  | none => pure ()
  pure ⟨p, ← Matcher.compile p.ignores glob⟩

/-- The events logged when an auditor is made. -/
def notes (a : Auditor) : List LogEvent :=
  if a.policy.allowRanges && a.policy.allowIdenticalBounds then
    [{ level := .debug, target := engineTarget,
       message := "allow_ranges_with_identical_bounds has no effect while allow_ranges is set" }]
  else []

/-- **Whether a dependency is passed over**, with the events logged on the way: its scope and
optional flag are looked at first, the ignore patterns only when they do not settle it. -/
def checkExcluded (a : Auditor) (d : Dependency) : Logged Bool :=
  if a.policy.excludedScopes.contains d.scope || (a.policy.excludeOptionals && d.optional) then
    ([], true)
  else a.matcher.check d

/-- Whether a dependency is passed over. -/
def isExcluded (a : Auditor) (d : Dependency) : Bool := (a.checkExcluded d).2

/-- The request for a tree with an expected root. -/
def request (a : Auditor) (root : Option Coordinate) : CollectRequest :=
  ⟨root, a.policy.selector⟩

/-- A debug event of the audit. -/
def debugNote (message : String) (fields : List (String × String) := []) : LogEvent :=
  { level := .debug, target := engineTarget, message, fields }

/-- What the audit does on entering a node whose ancestors are `path`. -/
def inspect (a : Auditor) (st : Logged AuditReport) (n : Node) (path : List Node) :
    Logged AuditReport × Action :=
  let (log, r) := st
  let d := n.dependency
  let r := { r with nodesVisited := r.nodesVisited + 1 }
  let log := log ++ [debugNote ("Inspecting dependency " ++ d.display)
    [("depth", toString (path.length + 1))]]
  let (notes, excluded) := a.checkExcluded d
  let log := log ++ notes
  if excluded then
    ((log ++ [debugNote ("Skipping excluded dependency " ++ d.display)], r), .continue)
  else
    match n.constraint, classify n.constraint a.policy with
    | c, .banned k =>
      ((log, { r with violations := r.violations ++ [⟨d, path.map Node.coordinate, c, k⟩] }),
        .skipChildren)
    | c, .unrecognized =>
      let raw := match c with
        | .unrecognized t => t
        | other => other.display
      ((log ++ [{ level := .warn, target := "pinguard_domain::classify",
                  message := "Unexpected version constraint found: '" ++ raw ++ "'" }],
        { r with unrecognized := r.unrecognized + 1 }), .continue)
    | _, _ => ((log, r), .continue)

/-- The audit as a visitor. -/
def visitor (a : Auditor) : Visitor (Logged AuditReport) where
  enter := a.inspect

/-- **Audit a tree**, with the events logged on the way. -/
def audit (a : Auditor) (root : Node) : Logged AuditReport :=
  Node.walk a.visitor ([], { root := some root.coordinate }) root

end Auditor

/-- Why an audit run failed. -/
inductive AuditError where
  | configuration (e : ConfigError)
  | resolution (root : String) (cause : Failure)

/-- The failure as a chain of causes. -/
def AuditError.failure : AuditError → Failure
  | .configuration e => .of e.message
  | .resolution root cause => cause.context ("could not retrieve dependency metadata for " ++ root)

/-- **Audit the tree a resolver collects** for an expected root. -/
def Auditor.run (a : Auditor) (collect : CollectRequest → Logged (Except Failure Node))
    (root : Option Coordinate) : Logged (Except AuditError AuditReport) :=
  let request := a.request root
  match collect request with
  | (log, .error f) => (log, .error (.resolution request.rootLabel f))
  | (log, .ok tree) =>
    let (log', r) := a.audit tree
    (log ++ log', .ok r)

/-- **Run an audit**: check the policy, collect the tree for the request, audit it. -/
def runAudit (collect : CollectRequest → Logged (Except Failure Node)) (request : CollectRequest)
    (p : DynamicPolicy) : Logged (Except AuditError AuditReport) :=
  match Auditor.new p with
  | .error e => ([], .error (.configuration e))
  | .ok a =>
    match collect request with
    | (log, .error f) => (a.notes ++ log, .error (.resolution request.rootLabel f))
    | (log, .ok tree) =>
      let (log', r) := a.audit tree
      (a.notes ++ log ++ log', .ok r)

/-- **A resolver over a tree document**, its entries read by the deserializer `deserialize`:
read it and prune it as requested; the expected root is not checked. -/
def documentCollector (deserialize : String → Except Json.Error Document.Entry) (text : String)
    (request : CollectRequest) : Logged (Except Failure Node) :=
  let (log, r) := Node.readDocumentWith deserialize text
  (log, r.map request.selector.prune)

end PinAudit
