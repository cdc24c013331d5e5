import PinAudit.Audit.Auditor
import PinAudit.Proofs.Walk

/-!
# What an audit reports

The report of an audit can be read off the tree and the policy without running the walk. A
policy *passes over* a dependency whose scope it excludes, that is optional while optional
dependencies are excluded, or that one of its ignore patterns matches
(`DynamicPolicy.excludes`). A dependency that is not passed over and whose constraint the
policy bans *stops* the audit: its subtree is not entered (`DynamicPolicy.stops`). The audit
visits the sites of the tree none of whose ancestors stops it; it counts them all, reports a
violation at each one that stops it, and counts those not passed over whose constraint it
cannot recognize (`DynamicPolicy.expectedReport`).

A passed-over node still lies on the ancestor path of its children, so their violations name
it; a violation names no node of an earlier sibling's subtree. Both come from the walk
theorem `Node.walk_eq_foldl`, here applied to the audit's visitor, whose report part takes
one `AuditReport.record` step at each site (`Auditor.visitor_isFold`).

The auditor is built by `Auditor.new`, which compiles the ignore patterns; one built from a
policy passes over exactly the dependencies the policy excludes (`Auditor.follows_of_new`).

Main definitions: `DynamicPolicy.excludes`, `DynamicPolicy.findings`,
`DynamicPolicy.expectedReport`. Main statement: `Auditor.audit_eq_expectedReport`.
-/

namespace PinAudit

/-- The constraint a dependency's node carries: its version text, read leniently. -/
def Dependency.constraint (d : Dependency) : Constraint :=
  Constraint.ofResolved d.coordinate.version

@[simp] theorem Node.constraint_eq (n : Node) : n.constraint = n.dependency.constraint := rfl

namespace DynamicPolicy

/-- **One of the policy's ignore patterns matches a dependency.** A pattern that does not
compile matches nothing; `Auditor.new` refuses such a policy anyway. -/
def ignoresDependency (p : DynamicPolicy) (d : Dependency) : Bool :=
  p.ignores.any fun s => (Pattern.compile s).toOption.any (·.accepts d)

/-- **The policy passes over a dependency**: its scope is excluded, it is optional while
optional dependencies are excluded, or an ignore pattern matches it. -/
def excludes (p : DynamicPolicy) (d : Dependency) : Bool :=
  p.excludedScopes.contains d.scope || (p.excludeOptionals && d.optional) ||
    p.ignoresDependency d

/-- The kind of dynamic version the policy bans in a dependency's constraint, if it bans one. -/
def bannedKind? (p : DynamicPolicy) (d : Dependency) : Option DynamicKind :=
  (classify d.constraint p).banned?

/-- **A dependency stops the audit** below it when the policy does not pass over it and bans
its constraint. -/
def stops (p : DynamicPolicy) (d : Dependency) : Bool :=
  !p.excludes d && (p.bannedKind? d).isSome

/-- **The violation at a site**, when the policy does not pass over the site's dependency and
bans its constraint: the dependency, the coordinates of its ancestors and its constraint. -/
def violationAt? (p : DynamicPolicy) (e : Site) : Option Violation :=
  if p.excludes e.dependency then none
  else (p.bannedKind? e.dependency).map fun k =>
    ⟨e.dependency, e.ancestors.map Dependency.coordinate, e.dependency.constraint, k⟩

/-- The constraint at a site counts as unrecognized: the policy does not pass over the site's
dependency and cannot classify its constraint. -/
def unrecognizedAt (p : DynamicPolicy) (e : Site) : Bool :=
  !p.excludes e.dependency && classify e.dependency.constraint p == .unrecognized

/-- **The sites an audit visits**, in pre-order: those with no ancestor that stops it. -/
def visited (p : DynamicPolicy) (root : Node) : List Site :=
  root.sites.filter (Site.clearOf p.stops)

/-- **The violations of a tree, each at its site**, in pre-order. -/
def findings (p : DynamicPolicy) (root : Node) : List (Site × Violation) :=
  (p.visited root).filterMap fun e => (p.violationAt? e).map (e, ·)

/-- **What an audit of a tree reports**: the root's coordinates, the violations in pre-order,
the number of visited sites, and the number of unrecognized constraints among them. -/
def expectedReport (p : DynamicPolicy) (root : Node) : AuditReport where
  root := some root.coordinate
  violations := (p.findings root).map Prod.snd
  nodesVisited := (p.visited root).length
  unrecognized := (p.visited root).countP p.unrecognizedAt

/-- The violations of the findings are the violations at the visited sites. -/
theorem findings_map_snd (p : DynamicPolicy) (root : Node) :
    (p.findings root).map Prod.snd = (p.visited root).filterMap p.violationAt? := by
  simp [findings, List.map_filterMap, Option.map_map, Function.comp_def]

/-- **A finding is a visited site with its violation.** -/
theorem mem_findings {p : DynamicPolicy} {root : Node} {e : Site} {v : Violation} :
    (e, v) ∈ p.findings root ↔
      e ∈ root.sites ∧ e.clearOf p.stops = true ∧ p.violationAt? e = some v := by
  simp only [findings, visited, List.mem_filterMap, List.mem_filter, Option.map_eq_some_iff,
    Prod.mk.injEq]
  constructor
  · rintro ⟨e', ⟨hmem, hclear⟩, v', hv', rfl, rfl⟩
    exact ⟨hmem, hclear, hv'⟩
  · rintro ⟨hmem, hclear, hv⟩
    exact ⟨e, ⟨hmem, hclear⟩, v, hv, rfl, rfl⟩

/-- A stopping dependency is not passed over and has a banned constraint, so a visited site
with it is a violation. -/
theorem violationAt?_isSome_iff (p : DynamicPolicy) (e : Site) :
    (p.violationAt? e).isSome = p.stops e.dependency := by
  by_cases hx : p.excludes e.dependency <;> simp [violationAt?, stops, hx]

end DynamicPolicy

/-! ### Auditors made from a policy -/

/-- Reading a list with a computation that can fail: each value read is what the computation
gives for its source, so a test holds of some value read exactly when it holds of what some
source gives. -/
theorem List.any_of_mapM_eq_ok {α β ε : Type} {f : α → Except ε β} {q : β → Bool} :
    ∀ {l : List α} {l' : List β}, l.mapM f = .ok l' →
      l'.any q = l.any fun x => (f x).toOption.any q
  | [], l', h => by
    simp only [List.mapM_nil, pure, Except.pure, Except.ok.injEq] at h
    subst h
    rfl
  | x :: xs, l', h => by
    simp only [List.mapM_cons, bind, Except.bind] at h
    cases hx : f x with
    | error e => simp [hx] at h
    | ok y =>
      cases hxs : xs.mapM f with
      | error e => simp [hx, hxs] at h
      | ok ys =>
        simp only [hx, hxs, pure, Except.pure, Except.ok.injEq] at h
        subst h
        simp [hx, Except.toOption, List.any_of_mapM_eq_ok hxs]

/-- A matcher accepts a dependency when one of its patterns does. -/
theorem Matcher.checkAny_snd (d : Dependency) :
    ∀ ps : List Pattern, (Matcher.checkAny d ps).2 = ps.any (·.accepts d)
  | [] => rfl
  | p :: ps => by
    rw [Matcher.checkAny]
    rcases hp : p.check d with ⟨log, ok⟩
    cases ok <;> simp [Pattern.accepts, hp, Matcher.checkAny_snd d ps]

/-- An auditor made from a policy keeps the policy and the patterns it compiled. -/
theorem Auditor.new_eq_ok {p : DynamicPolicy} {a : Auditor} (h : Auditor.new p = .ok a) :
    ∃ m, Matcher.compile p.ignores = .ok m ∧ a = ⟨p, m⟩ := by
  unfold Auditor.new at h
  split at h
  · cases h
  · cases hm : Matcher.compile p.ignores with
    | error e => simp [hm, bind, Except.bind] at h
    | ok m =>
      simp only [hm, bind, Except.bind, pure, Except.pure, Except.ok.injEq] at h
      exact ⟨m, rfl, h.symm⟩

/-- An auditor **follows** a policy when it classifies under the policy and passes over
exactly the dependencies the policy excludes. -/
structure Auditor.Follows (a : Auditor) (p : DynamicPolicy) : Prop where
  policy_eq : a.policy = p
  isExcluded_eq : ∀ d, a.isExcluded d = p.excludes d

/-- **An auditor made from a policy follows it**: the patterns it compiled match what the
policy's ignore patterns match. -/
theorem Auditor.follows_of_new {p : DynamicPolicy} {a : Auditor} (h : Auditor.new p = .ok a) :
    a.Follows p := by
  obtain ⟨m, hm, rfl⟩ := Auditor.new_eq_ok h
  -- the compiled patterns are what the policy's pattern texts compile to
  obtain ⟨pats, hpats, rfl⟩ : ∃ pats, p.ignores.mapM Pattern.compile = .ok pats ∧ m = ⟨pats⟩ := by
    unfold Matcher.compile at hm
    cases hc : p.ignores.mapM Pattern.compile with
    | error e => simp [hc, Except.map] at hm
    | ok pats =>
      simp only [hc, Except.map, Except.ok.injEq] at hm
      exact ⟨pats, rfl, hm.symm⟩
  refine ⟨rfl, fun d => ?_⟩
  have hany : (Matcher.mk pats).accepts d = p.ignoresDependency d := by
    rw [Matcher.accepts, Matcher.check, Matcher.checkAny_snd]
    exact List.any_of_mapM_eq_ok hpats
  simp only [Auditor.isExcluded, Auditor.checkExcluded, DynamicPolicy.excludes, ← hany]
  split <;> simp_all [Matcher.accepts]

/-! ### One step of the audit -/

/-- **The report after visiting one more site**: one more node, the site's violation if there
is one, and one more unrecognized constraint if it counts as one. -/
def AuditReport.record (r : AuditReport) (p : DynamicPolicy) (e : Site) : AuditReport :=
  { r with
    violations := r.violations ++ (p.violationAt? e).toList
    nodesVisited := r.nodesVisited + 1
    unrecognized := r.unrecognized + if p.unrecognizedAt e then 1 else 0 }

section Step

variable {a : Auditor} {p : DynamicPolicy}

/-- Inspecting a node records the node's site in the report, whatever has been logged. -/
theorem Auditor.inspect_report (h : a.Follows p) (log : List LogEvent) (r : AuditReport)
    (n : Node) (path : List Node) :
    (a.inspect (log, r) n path).1.2 = r.record p ⟨path.map Node.dependency, n.dependency⟩ := by
  have hx := h.isExcluded_eq n.dependency
  obtain ⟨hpol, -⟩ := h
  subst hpol
  rcases hc : a.checkExcluded n.dependency with ⟨notes, excluded⟩
  rw [Auditor.isExcluded, hc] at hx
  cases excluded
  · -- not passed over: the classification decides what is recorded
    cases hk : classify n.dependency.constraint a.policy <;>
      simp [Auditor.inspect, hc, hk, AuditReport.record, DynamicPolicy.violationAt?, ← hx,
        DynamicPolicy.bannedKind?, DynamicPolicy.unrecognizedAt, Node.coordinate,
        Classification.banned?]
  · simp [Auditor.inspect, hc, AuditReport.record, DynamicPolicy.violationAt?, ← hx,
      DynamicPolicy.unrecognizedAt]

/-- Inspecting a node skips its children exactly when the node stops the audit. -/
theorem Auditor.inspect_action (h : a.Follows p) (st : Logged AuditReport) (n : Node)
    (path : List Node) :
    (a.inspect st n path).2 = if p.stops n.dependency then .skipChildren else .continue := by
  have hx := h.isExcluded_eq n.dependency
  obtain ⟨hpol, -⟩ := h
  subst hpol
  rcases hc : a.checkExcluded n.dependency with ⟨notes, excluded⟩
  rw [Auditor.isExcluded, hc] at hx
  cases excluded
  · cases hk : classify n.dependency.constraint a.policy <;>
      simp [Auditor.inspect, hc, hk, DynamicPolicy.stops, ← hx, DynamicPolicy.bannedKind?,
        Classification.banned?]
  · simp [Auditor.inspect, hc, DynamicPolicy.stops, ← hx]

/-- **The audit's visitor is a fold**: its report takes one `record` step at each site, and
it skips below the dependencies that stop the audit. -/
theorem Auditor.visitor_isFold (h : a.Follows p) :
    a.visitor.IsFold Prod.snd (fun r e => r.record p e) p.stops where
  enter_fst st n path := by
    obtain ⟨log, r⟩ := st
    exact a.inspect_report h log r n path
  enter_snd st n path := a.inspect_action h st n path
  leave_eq _ _ := rfl

end Step

/-! ### The whole audit -/

/-- Recording sites one after the other appends their violations and adds up their counts. -/
theorem AuditReport.foldl_record (p : DynamicPolicy) :
    ∀ (es : List Site) (r : AuditReport), es.foldl (fun r e => r.record p e) r =
      { r with
        violations := r.violations ++ es.filterMap p.violationAt?
        nodesVisited := r.nodesVisited + es.length
        unrecognized := r.unrecognized + es.countP p.unrecognizedAt }
  | [], r => by simp
  | e :: es, r => by
    rw [List.foldl_cons, AuditReport.foldl_record p es]
    -- the first site's violation and count go in front of those of the others
    have hv : (p.violationAt? e).toList ++ es.filterMap p.violationAt? =
        (e :: es).filterMap p.violationAt? := by
      cases h : p.violationAt? e <;> simp [h]
    have hu : (if p.unrecognizedAt e then 1 else 0) + es.countP p.unrecognizedAt =
        (e :: es).countP p.unrecognizedAt := by
      cases h : p.unrecognizedAt e
      · simp [h]
      · simp [h]
        omega
    simp only [AuditReport.record, List.append_assoc, hv, List.length_cons, ← hu]
    congr 1 <;> omega

/-- **An auditor that follows a policy reports what the policy expects.** -/
theorem Auditor.audit_report {a : Auditor} {p : DynamicPolicy} (h : a.Follows p) (root : Node) :
    (a.audit root).2 = p.expectedReport root := by
  have hwalk := Node.walk_eq_foldl (Auditor.visitor_isFold h) ([], { root := some root.coordinate })
    root
  rw [Auditor.audit, hwalk, AuditReport.foldl_record]
  simp [DynamicPolicy.expectedReport, DynamicPolicy.findings_map_snd, DynamicPolicy.visited]

/-- **The audit of a tree is its expected report**: for an auditor made from a policy, the
report names the root, lists in pre-order the violation at every site that no stopping
ancestor hides, counts those sites, and counts the unrecognized constraints among them. -/
theorem Auditor.audit_eq_expectedReport {p : DynamicPolicy} {a : Auditor}
    (h : Auditor.new p = .ok a) (root : Node) :
    (a.audit root).2 = p.expectedReport root :=
  Auditor.audit_report (Auditor.follows_of_new h) root

/-- The expected report of a tree with a test-scoped dependency below a direct one, under a
policy that excludes the test scope. -/
theorem Auditor.audit_eq_expectedReport_testScoped :
    Auditor.new { excludedScopes := ["test"] } = .ok ⟨{ excludedScopes := ["test"] }, ⟨[]⟩⟩ ∧
    (Auditor.audit ⟨{ excludedScopes := ["test"] }, ⟨[]⟩⟩
        (.node ⟨⟨"com.example", "project", "jar", "", "1.0"⟩, "", false⟩
          [.node ⟨⟨"com.example", "a", "jar", "", "1.0"⟩, "test", false⟩
            [.node ⟨⟨"com.example", "b", "jar", "", "LATEST"⟩, "compile", false⟩ []]])).2 =
      DynamicPolicy.expectedReport { excludedScopes := ["test"] }
        (.node ⟨⟨"com.example", "project", "jar", "", "1.0"⟩, "", false⟩
          [.node ⟨⟨"com.example", "a", "jar", "", "1.0"⟩, "test", false⟩
            [.node ⟨⟨"com.example", "b", "jar", "", "LATEST"⟩, "compile", false⟩ []]]) :=
  ⟨rfl, Auditor.audit_eq_expectedReport rfl _⟩

end PinAudit
