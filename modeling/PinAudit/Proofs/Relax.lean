import PinAudit.Proofs.Audit

/-!
# Auditing under a more permissive policy

A policy `q` *relaxes* a policy `p` when it allows every kind of dynamic version `p` allows,
excludes optional dependencies whenever `p` does, and excludes at least `p`'s scopes and
ignore patterns (`DynamicPolicy.Relaxes`). Relaxing has two opposite effects on an audit: a
node that `p` reports may be allowed or passed over under `q`, and the subtree below a node
that `p` reports, which the audit under `p` never enters, is entered under `q` and may hold
violations of its own. So neither list of violations contains the other.

What does hold is stated over findings, the violations at their sites
(`Auditor.audit_relax`):

* a finding under `p` whose dependency `q` neither passes over nor allows is a finding under
  `q`, with the same path and kind: every dependency that stops the audit under `q` stops it
  under `p` (`DynamicPolicy.stops_of_relaxes`), so nothing hides the site under `q`;
* every finding under `q` is a finding under `p`, or lies strictly below one: its dependency
  stops the audit under `p` too, so either nothing hides it under `p` or the topmost
  ancestor that does is itself a finding under `p` (`DynamicPolicy.exists_finding_above`).
-/

namespace PinAudit

namespace DynamicPolicy

/-- **`q` is at least as permissive as `p`**: every toggle set in `p` is set in `q`, and `q`
excludes every scope and has every ignore pattern that `p` has. -/
structure Relaxes (p q : DynamicPolicy) : Prop where
  snapshots : p.allowSnapshots = true → q.allowSnapshots = true
  latest : p.allowLatest = true → q.allowLatest = true
  release : p.allowRelease = true → q.allowRelease = true
  ranges : p.allowRanges = true → q.allowRanges = true
  identicalBounds : p.allowIdenticalBounds = true → q.allowIdenticalBounds = true
  optionals : p.excludeOptionals = true → q.excludeOptionals = true
  scopes : p.excludedScopes ⊆ q.excludedScopes
  ignores : p.ignores ⊆ q.ignores

variable {p q : DynamicPolicy}

/-- A more permissive policy allows every dynamic constraint the other allows. -/
theorem allows_mono (h : p.Relaxes q) (c : Constraint) :
    ∀ k, p.allows c k = true → q.allows c k = true
  | .latest => h.latest
  | .release => h.release
  | .snapshot => h.snapshots
  | .range => by
    simp only [allows, Bool.or_eq_true, Bool.and_eq_true]
    rintro (⟨hb, hid⟩ | hr)
    · exact .inl ⟨h.identicalBounds hb, hid⟩
    · exact .inr (h.ranges hr)

/-- A constraint is banned when it is dynamic and its kind is not allowed. -/
theorem classify_eq_banned_iff {c : Constraint} {k : DynamicKind} :
    classify c p = .banned k ↔ dynamicKind? c = some k ∧ p.allows c k = false := by
  unfold classify
  split
  · simp [dynamicKind?]
  · cases hk : dynamicKind? c with
    | none => simp
    | some k' =>
      by_cases ha : p.allows c k'
      · -- an allowed kind is not banned, and `k` is that kind
        simp only [ha, if_true, reduceCtorEq, false_iff, not_and, Option.some.injEq]
        rintro rfl
        simp [ha]
      · simp only [ha, Bool.false_eq_true, if_false, Classification.banned.injEq,
          Option.some.injEq]
        constructor
        · rintro rfl
          exact ⟨rfl, by simpa using ha⟩
        · rintro ⟨rfl, -⟩
          rfl

theorem bannedKind?_eq_some_iff {d : Dependency} {k : DynamicKind} :
    p.bannedKind? d = some k ↔ classify d.constraint p = .banned k := by
  simp only [bannedKind?]
  cases classify d.constraint p <;> simp [Classification.banned?]

/-- **A constraint banned by the more permissive policy is banned by the other**, with the
same kind. -/
theorem bannedKind?_of_relaxes (h : p.Relaxes q) {d : Dependency} {k : DynamicKind}
    (hq : q.bannedKind? d = some k) : p.bannedKind? d = some k := by
  rw [bannedKind?_eq_some_iff, classify_eq_banned_iff] at hq ⊢
  refine ⟨hq.1, ?_⟩
  -- allowed under `p` would mean allowed under `q`
  cases hp : p.allows d.constraint k
  · rfl
  · simpa [hq.2] using allows_mono h d.constraint k hp

/-- **A more permissive policy passes over every dependency the other passes over.** -/
theorem excludes_mono (h : p.Relaxes q) {d : Dependency} (hp : p.excludes d = true) :
    q.excludes d = true := by
  simp only [excludes, ignoresDependency, Bool.or_eq_true, Bool.and_eq_true, List.contains_iff_mem,
    List.any_eq_true] at hp ⊢
  rcases hp with (hs | ⟨ho, hopt⟩) | ⟨s, hs, hmatch⟩
  · exact .inl (.inl (h.scopes hs))
  · exact .inl (.inr ⟨h.optionals ho, hopt⟩)
  · exact .inr ⟨s, h.ignores hs, hmatch⟩

theorem excludes_eq_false_of_relaxes (h : p.Relaxes q) {d : Dependency}
    (hq : q.excludes d = false) : p.excludes d = false :=
  Bool.eq_false_iff.2 fun hp => by simp [excludes_mono h hp] at hq

/-- **Every dependency that stops an audit under the more permissive policy stops it under the
other.** -/
theorem stops_of_relaxes (h : p.Relaxes q) {d : Dependency} (hq : q.stops d = true) :
    p.stops d = true := by
  simp only [stops, Bool.and_eq_true, Bool.not_eq_true', Option.isSome_iff_exists] at hq ⊢
  obtain ⟨hx, k, hk⟩ := hq
  exact ⟨excludes_eq_false_of_relaxes h hx, k, bannedKind?_of_relaxes h hk⟩

/-- A site clear of what stops the audit under `p` is clear of what stops it under `q`. -/
theorem clearOf_of_relaxes (h : p.Relaxes q) {e : Site} (hp : e.clearOf p.stops = true) :
    e.clearOf q.stops = true := by
  simp only [Site.clearOf, List.all_eq_true, Bool.not_eq_true'] at hp ⊢
  intro d hd
  cases hq : q.stops d
  · rfl
  · simpa [hp d hd] using stops_of_relaxes h hq

/-- **A violation under the more permissive policy is the same violation under the other.** -/
theorem violationAt?_of_relaxes (h : p.Relaxes q) {e : Site} {v : Violation}
    (hq : q.violationAt? e = some v) : p.violationAt? e = some v := by
  simp only [violationAt?] at hq ⊢
  split at hq
  · cases hq
  · rename_i hx
    obtain ⟨k, hk, rfl⟩ := Option.map_eq_some_iff.1 hq
    have hpx := excludes_eq_false_of_relaxes h (Bool.eq_false_iff.2 hx)
    simp [hpx, bannedKind?_of_relaxes h hk]

/-- A violation under `p` at a site that `q` neither passes over nor allows is the same
violation under `q`. -/
theorem violationAt?_of_relaxes_banned (h : p.Relaxes q) {e : Site} {v : Violation}
    (hp : p.violationAt? e = some v) (hx : q.excludes e.dependency = false)
    (hk : (q.bannedKind? e.dependency).isSome) : q.violationAt? e = some v := by
  obtain ⟨k, hqk⟩ := Option.isSome_iff_exists.1 hk
  have hpk := bannedKind?_of_relaxes h hqk
  simp only [violationAt?] at hp ⊢
  split at hp
  · cases hp
  · obtain ⟨k', hk', rfl⟩ := Option.map_eq_some_iff.1 hp
    rw [hpk, Option.some.injEq] at hk'
    subst hk'
    simp [hx, hqk]

/-- **A site hidden from the audit lies below a finding**: when some ancestor of a site stops
the audit, the topmost such ancestor is visited and reports a violation. -/
theorem exists_finding_above {root : Node} {e : Site} (hmem : e ∈ root.sites)
    (hclear : e.clearOf p.stops = false) :
    ∃ f₀ ∈ p.findings root, f₀.1.chain <+: e.ancestors := by
  -- split the ancestors at the first one that stops the audit; those before it do not
  have hsome : (e.ancestors.find? p.stops).isSome := by
    simpa [Site.clearOf] using hclear
  obtain ⟨d, hd⟩ := Option.isSome_iff_exists.1 hsome
  obtain ⟨hstop, pre, rest, hsplit, hpre⟩ := List.find?_eq_some_iff_append.1 hd
  have hsite : (⟨pre, d⟩ : Site) ∈ root.sites := Node.mem_sites_of_ancestors hmem hsplit
  have hclear₀ : Site.clearOf p.stops ⟨pre, d⟩ = true := by
    simpa [Site.clearOf] using hpre
  obtain ⟨v₀, hv₀⟩ := Option.isSome_iff_exists.1
    ((violationAt?_isSome_iff p ⟨pre, d⟩).trans hstop)
  refine ⟨(⟨pre, d⟩, v₀), mem_findings.2 ⟨hsite, hclear₀, hv₀⟩, ?_⟩
  rw [hsplit]
  exact ⟨rest, by simp [Site.chain]⟩

end DynamicPolicy

/-- **Auditing under a more permissive policy.** For auditors made from policies `p` and a
more permissive `q`, the audits report the violations of their findings; a finding under `p`
whose dependency `q` neither passes over nor allows is a finding under `q`, at the same site
and with the same path and kind; and every finding under `q` is a finding under `p` or lies
strictly below the site of one. -/
theorem Auditor.audit_relax {p q : DynamicPolicy} {a b : Auditor} (ha : Auditor.new p = .ok a)
    (hb : Auditor.new q = .ok b) (h : p.Relaxes q) (root : Node) :
    (a.audit root).2.violations = (p.findings root).map Prod.snd ∧
    (b.audit root).2.violations = (q.findings root).map Prod.snd ∧
    (∀ f ∈ p.findings root, b.isExcluded f.1.dependency = false →
      (∃ k, classify f.1.dependency.constraint q = .banned k) → f ∈ q.findings root) ∧
    (∀ f ∈ q.findings root,
      f ∈ p.findings root ∨ ∃ f₀ ∈ p.findings root, f₀.1.chain <+: f.1.ancestors) := by
  have hfa := Auditor.follows_of_new ha
  have hfb := Auditor.follows_of_new hb
  refine ⟨by rw [Auditor.audit_report hfa]; rfl, by rw [Auditor.audit_report hfb]; rfl, ?_, ?_⟩
  · -- nothing hides the site under `q`, and `q` reports the same violation there
    rintro ⟨e, v⟩ hf hx ⟨k, hk⟩
    obtain ⟨hmem, hclear, hv⟩ := DynamicPolicy.mem_findings.1 hf
    have hx' : q.excludes e.dependency = false := by rw [← hfb.isExcluded_eq]; exact hx
    have hk' : (q.bannedKind? e.dependency).isSome :=
      Option.isSome_iff_exists.2 ⟨k, DynamicPolicy.bannedKind?_eq_some_iff.2 hk⟩
    exact DynamicPolicy.mem_findings.2
      ⟨hmem, DynamicPolicy.clearOf_of_relaxes h hclear,
        DynamicPolicy.violationAt?_of_relaxes_banned h hv hx' hk'⟩
  · rintro ⟨e, v⟩ hf
    obtain ⟨hmem, -, hv⟩ := DynamicPolicy.mem_findings.1 hf
    have hpv := DynamicPolicy.violationAt?_of_relaxes h hv
    cases hclear : e.clearOf p.stops
    · -- some ancestor stops the audit under `p`: the topmost one is a finding under `p`
      exact .inr (DynamicPolicy.exists_finding_above hmem hclear)
    · -- nothing hides the site under `p` either
      exact .inl (DynamicPolicy.mem_findings.2 ⟨hmem, hclear, hpv⟩)

/-- The default policy against one that also allows `LATEST` and excludes the test scope. -/
theorem Auditor.audit_relax_latestAllowed :
    Auditor.new {} = .ok ⟨{}, ⟨[]⟩⟩ ∧
    Auditor.new { allowLatest := true, excludedScopes := ["test"] } =
      .ok ⟨{ allowLatest := true, excludedScopes := ["test"] }, ⟨[]⟩⟩ ∧
    DynamicPolicy.Relaxes {} { allowLatest := true, excludedScopes := ["test"] } ∧
    let p : DynamicPolicy := {}
    let q : DynamicPolicy := { allowLatest := true, excludedScopes := ["test"] }
    let a : Auditor := ⟨p, ⟨[]⟩⟩
    let b : Auditor := ⟨q, ⟨[]⟩⟩
    let root : Node := .node ⟨⟨"com.example", "project", "jar", "", "1.0"⟩, "", false⟩
      [.node ⟨⟨"com.example", "a", "jar", "", "LATEST"⟩, "compile", false⟩
        [.node ⟨⟨"com.example", "b", "jar", "", "RELEASE"⟩, "compile", false⟩ []]]
    (a.audit root).2.violations = (p.findings root).map Prod.snd ∧
    (b.audit root).2.violations = (q.findings root).map Prod.snd ∧
    (∀ f ∈ p.findings root, b.isExcluded f.1.dependency = false →
      (∃ k, classify f.1.dependency.constraint q = .banned k) → f ∈ q.findings root) ∧
    (∀ f ∈ q.findings root,
      f ∈ p.findings root ∨ ∃ f₀ ∈ p.findings root, f₀.1.chain <+: f.1.ancestors) :=
  have hr : DynamicPolicy.Relaxes {} { allowLatest := true, excludedScopes := ["test"] } :=
    ⟨by decide, by decide, by decide, by decide, by decide, by decide, List.nil_subset _,
      List.nil_subset _⟩
  ⟨rfl, rfl, hr, Auditor.audit_relax rfl rfl hr _⟩

end PinAudit
