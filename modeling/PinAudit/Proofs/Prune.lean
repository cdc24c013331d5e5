import Mathlib.Data.List.Basic
import PinAudit.Proofs.Audit

/-!
# Auditing a pruned tree

A resolver hands the audit a tree pruned by the policy's selector: a transitive dependency (at
depth 2 or more) whose scope is excluded, or that is optional while optional dependencies are,
is dropped together with its subtree. The audit itself only passes over such a node and still
goes below it, so the two mechanisms differ, and the question is what pruning first changes.

Pruning removes whole subtrees and nothing else: the sites of the pruned tree are the sites of
the tree that the selector *keeps*, those on whose way down every node is selected at its own
depth, in the same order and with the same ancestors (`Selector.sites_prune`). Whether a site
is visited and what it reports depend on the site alone, so the audit of the pruned tree
reports the violations of the unpruned one whose site is kept, unchanged and in order, and
counts fewer nodes and unrecognized constraints by exactly the visited sites it drops
(`Auditor.audit_prune`).

Main definitions: `Selector.keeps`. Main statements: `Selector.sites_prune`,
`Auditor.audit_prune`.
-/

namespace PinAudit

namespace Selector

/-- Every dependency of a chain is selected, the first at depth `depth` and each next one a
level deeper. -/
def selectsFrom (s : Selector) : Nat → List Dependency → Bool
  | _, [] => true
  | depth, d :: ds => s.select d depth && s.selectsFrom (depth + 1) ds

/-- **A selector keeps a site** when it selects every node on the way down to it, from the
direct dependency of the root (depth 1) to the site itself, each at its own depth. -/
def keeps (s : Selector) (e : Site) : Bool := s.selectsFrom 1 e.chain

@[simp] theorem selectsFrom_nil (s : Selector) (depth : Nat) : s.selectsFrom depth [] = true := by
  rw [selectsFrom]

theorem selectsFrom_append (s : Selector) (xs ys : List Dependency) :
    ∀ depth, s.selectsFrom depth (xs ++ ys) =
      (s.selectsFrom depth xs && s.selectsFrom (depth + xs.length) ys) := by
  induction xs with
  | nil => simp
  | cons x xs ih =>
    intro depth
    rw [List.cons_append, selectsFrom, selectsFrom, ih, Bool.and_assoc, List.length_cons,
      Nat.add_right_comm, Nat.add_assoc]

/-- A site below a node that the selector drops is not kept. -/
theorem keeps_eq_false_of_chain {s : Selector} {anc : List Dependency} {d : Dependency}
    {e : Site} (hd : s.select d (anc.length + 1) = false)
    (he : anc ++ [d] <+: e.chain) : s.keeps e = false := by
  obtain ⟨rest, hrest⟩ := he
  rw [keeps, ← hrest, selectsFrom_append, selectsFrom_append]
  simp [selectsFrom, Nat.add_comm, hd]

end Selector

namespace Node

/-- A site at or below a node has the node's chain at the start of its own. -/
theorem chain_prefix_of_mem_sitesAt {anc : List Dependency} {n : Node} {e : Site}
    (h : e ∈ sitesAt anc n) : anc ++ [n.dependency] <+: e.chain := by
  obtain ⟨d, cs⟩ := n
  rw [sitesAt_node] at h
  rcases List.mem_cons.1 h with rfl | h
  · exact List.prefix_refl _
  · exact (ancestors_prefix_of_mem_sitesUnder _ cs h).trans (List.prefix_append _ _)

end Node

namespace Selector

open Node

mutual

/-- Pruning below a kept node keeps the node's site and the kept sites below it. -/
theorem sitesAt_pruneAt (s : Selector) (anc : List Dependency)
    (hanc : s.selectsFrom 1 anc = true) :
    ∀ n, s.select n.dependency (anc.length + 1) = true →
      sitesAt anc (s.pruneAt (anc.length + 2) n) = (sitesAt anc n).filter s.keeps
  | node d cs, hd => by
    have hkeep : s.keeps ⟨anc, d⟩ = true := by
      simpa [keeps, Site.chain, selectsFrom_append, hanc, selectsFrom, Nat.add_comm] using hd
    have hanc' : s.selectsFrom 1 (anc ++ [d]) = true := hkeep
    have hbelow := sitesUnder_pruneList s (anc ++ [d]) hanc' cs
    rw [List.length_append, List.length_singleton] at hbelow
    rw [pruneAt, sitesAt_node, sitesAt_node, List.filter_cons_of_pos hkeep, hbelow]

/-- **Pruning siblings keeps exactly their kept sites**, in order. -/
theorem sitesUnder_pruneList (s : Selector) (anc : List Dependency)
    (hanc : s.selectsFrom 1 anc = true) :
    ∀ cs, sitesUnder anc (s.pruneList (anc.length + 1) cs) = (sitesUnder anc cs).filter s.keeps
  | [] => by simp [pruneList]
  | c :: cs => by
    rw [pruneList, sitesUnder_cons, List.filter_append]
    by_cases hc : s.select c.dependency (anc.length + 1)
    · -- a selected sibling stays, pruned below
      rw [if_pos hc, sitesUnder_cons, sitesAt_pruneAt s anc hanc c hc,
        sitesUnder_pruneList s anc hanc cs]
    · -- a dropped sibling takes its whole subtree with it
      have hnone : (sitesAt anc c).filter s.keeps = [] :=
        List.filter_eq_nil_iff.2 fun e he => by
          simp [keeps_eq_false_of_chain (Bool.of_not_eq_true hc)
            (chain_prefix_of_mem_sitesAt he)]
      rw [if_neg hc, hnone, List.nil_append, sitesUnder_pruneList s anc hanc cs]

end

/-- **The sites of a pruned tree are the kept sites of the tree**, in the same order and with
the same ancestors. -/
theorem sites_prune (s : Selector) (root : Node) :
    (s.prune root).sites = root.sites.filter s.keeps := by
  obtain ⟨d, cs⟩ := root
  simpa [prune, pruneAt, sites] using sitesUnder_pruneList s [] (by simp) cs

end Selector

namespace DynamicPolicy

variable (p : DynamicPolicy) (s : Selector) (root : Node)

/-- The visited sites of a pruned tree are the kept visited sites of the tree. -/
theorem visited_prune : p.visited (s.prune root) = (p.visited root).filter s.keeps := by
  simp only [visited, Selector.sites_prune, List.filter_filter, Bool.and_comm]

/-- The findings of a pruned tree are the findings of the tree at kept sites. -/
theorem findings_prune :
    p.findings (s.prune root) = (p.findings root).filter fun f => s.keeps f.1 := by
  rw [findings, findings, visited_prune, List.filterMap_filter, List.filter_filterMap]
  congr 1
  funext e
  by_cases hk : s.keeps e <;> cases p.violationAt? e <;> simp [hk, Option.filter_some]

end DynamicPolicy

/-- **Auditing a pruned tree.** For an auditor made from a policy, auditing the tree pruned by
the policy's selector reports the same root, and exactly those violations of the unpruned
audit whose site the selector keeps, unchanged and in the same order; it visits fewer nodes by
exactly the visited sites at or below a dropped node, and counts fewer unrecognized
constraints by exactly those counted among them. -/
theorem Auditor.audit_prune {p : DynamicPolicy} {a : Auditor} (h : Auditor.new p = .ok a)
    (root : Node) :
    (a.audit (p.selector.prune root)).2.root = (a.audit root).2.root ∧
    (a.audit root).2.violations = (p.findings root).map Prod.snd ∧
    (a.audit (p.selector.prune root)).2.violations =
      ((p.findings root).filter fun f => p.selector.keeps f.1).map Prod.snd ∧
    (a.audit root).2.nodesVisited = (a.audit (p.selector.prune root)).2.nodesVisited +
      ((p.visited root).filter fun e => !p.selector.keeps e).length ∧
    (a.audit root).2.unrecognized = (a.audit (p.selector.prune root)).2.unrecognized +
      ((p.visited root).filter fun e => !p.selector.keeps e).countP p.unrecognizedAt := by
  have hf := Auditor.follows_of_new h
  rw [Auditor.audit_report hf, Auditor.audit_report hf]
  refine ⟨?_, rfl, ?_, ?_, ?_⟩
  · -- pruning keeps the root itself
    obtain ⟨d, cs⟩ := root
    rfl
  · rw [DynamicPolicy.expectedReport, DynamicPolicy.findings_prune]
  · -- the visited sites split into the kept and the dropped ones
    simp only [DynamicPolicy.expectedReport, DynamicPolicy.visited_prune]
    exact List.length_eq_length_filter_add _
  · simp only [DynamicPolicy.expectedReport, DynamicPolicy.visited_prune]
    exact List.countP_eq_countP_filter_add _ _ _

/-- Auditing a tree whose test-scoped transitive dependency is pruned away, under a policy
that excludes the test scope. -/
theorem Auditor.audit_prune_testScoped :
    Auditor.new { excludedScopes := ["test"] } = .ok ⟨{ excludedScopes := ["test"] }, ⟨[]⟩⟩ ∧
    let p : DynamicPolicy := { excludedScopes := ["test"] }
    let a : Auditor := ⟨p, ⟨[]⟩⟩
    let root : Node := .node ⟨⟨"com.example", "project", "jar", "", "1.0"⟩, "", false⟩
      [.node ⟨⟨"com.example", "a", "jar", "", "1.0"⟩, "compile", false⟩
        [.node ⟨⟨"com.example", "b", "jar", "", "1.0"⟩, "test", false⟩
          [.node ⟨⟨"com.example", "c", "jar", "", "LATEST"⟩, "compile", false⟩ []]]]
    (a.audit (p.selector.prune root)).2.root = (a.audit root).2.root ∧
    (a.audit root).2.violations = (p.findings root).map Prod.snd ∧
    (a.audit (p.selector.prune root)).2.violations =
      ((p.findings root).filter fun f => p.selector.keeps f.1).map Prod.snd ∧
    (a.audit root).2.nodesVisited = (a.audit (p.selector.prune root)).2.nodesVisited +
      ((p.visited root).filter fun e => !p.selector.keeps e).length ∧
    (a.audit root).2.unrecognized = (a.audit (p.selector.prune root)).2.unrecognized +
      ((p.visited root).filter fun e => !p.selector.keeps e).countP p.unrecognizedAt :=
  ⟨rfl, Auditor.audit_prune rfl _⟩

end PinAudit
