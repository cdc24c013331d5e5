import Mathlib.Data.List.Basic
import PinAudit.Proofs.Prune

/-!
# What pruning removes, and the laws of pruning twice

A selector prunes a tree by dropping each node at depth 2 or more that it does not select,
together with the node's whole subtree. This module shows that this is all pruning does, and
derives from it what pruning twice does.

A tree is determined by its root and its sites (`Node.eq_of_sites_eq`): the sites list the
nodes below the root in pre-order, each with its ancestors, and the ancestors tell where the
subtree of one sibling ends and the next sibling begins. Pruning keeps the root and every direct
dependency (`Selector.children_prune`), and its sites are exactly the sites of the tree that the
selector keeps, in order and with the same ancestors, so each at its old depth
(`Selector.sites_prune`). So the pruned tree is the one tree with the original root and those
sites.

Pruning by one selector and then by another is pruning once by a selector that drops what
either drops (`Selector.pruneAt_pruneAt`): one with the union of their excluded scopes, that
excludes optional dependencies when either does. Hence pruning is idempotent and two prunings
commute.

Main statement: `Selector.prune_laws`.
-/

namespace PinAudit

namespace Node

/-! ### A tree is determined by its root and its sites -/

section Span

variable {α : Type} {p : α → Bool} {xs ys : List α}

/-- The longest prefix satisfying `p` of a run of such elements, followed by a list that does not
start with one, is the run. -/
theorem takeWhile_append_eq (hx : ∀ x ∈ xs, p x = true) (hy : ∀ y ∈ ys.head?, p y = false) :
    (xs ++ ys).takeWhile p = xs := by
  rw [List.takeWhile_append_of_pos hx]
  cases ys with
  | nil => simp
  | cons y ys => simp [hy y rfl]

/-- What follows that prefix is the list after the run. -/
theorem dropWhile_append_eq (hx : ∀ x ∈ xs, p x = true) (hy : ∀ y ∈ ys.head?, p y = false) :
    (xs ++ ys).dropWhile p = ys := by
  rw [List.dropWhile_append_of_pos hx]
  cases ys with
  | nil => rfl
  | cons y ys => simp [hy y rfl]

/-- When every element of one part satisfies `p` and the other part does not start with one,
the two parts are read back from their concatenation. -/
theorem append_inj_of_span {xs' ys' : List α} (hx : ∀ x ∈ xs, p x = true)
    (hx' : ∀ x ∈ xs', p x = true) (hy : ∀ y ∈ ys.head?, p y = false)
    (hy' : ∀ y ∈ ys'.head?, p y = false) (h : xs ++ ys = xs' ++ ys') : xs = xs' ∧ ys = ys' :=
  ⟨(takeWhile_append_eq hx hy).symm.trans (h ▸ takeWhile_append_eq hx' hy'),
    (dropWhile_append_eq hx hy).symm.trans (h ▸ dropWhile_append_eq hx' hy')⟩

end Span

/-- The sites below a node lie deeper than the node. -/
theorem length_lt_of_mem_sitesUnder {anc : List Dependency} {d : Dependency} {cs : List Node}
    {e : Site} (h : e ∈ sitesUnder (anc ++ [d]) cs) : anc.length < e.ancestors.length := by
  have hle := (ancestors_prefix_of_mem_sitesUnder _ cs h).length_le
  rw [List.length_append, List.length_singleton] at hle
  omega

/-- The first site of a list of siblings is the first sibling's, at the siblings' depth. -/
theorem ancestors_of_mem_head?_sitesUnder {anc : List Dependency} :
    ∀ {cs : List Node} {e : Site}, e ∈ (sitesUnder anc cs).head? → e.ancestors = anc
  | [], _, h => by simp at h
  | node d ch :: cs, e, h => by
    simp only [sitesUnder_cons, sitesAt_node, List.cons_append, List.head?_cons,
      Option.mem_def, Option.some.injEq] at h
    rw [← h]

/-- The sites of a first sibling and of the siblings after it are read back from the sites of
all of them: the first sibling's subtree ends at the first site that is no deeper than the
siblings. -/
theorem sitesAt_append_inj {anc : List Dependency} {c c' : Node} {cs cs' : List Node}
    (h : sitesAt anc c ++ sitesUnder anc cs = sitesAt anc c' ++ sitesUnder anc cs') :
    sitesAt anc c = sitesAt anc c' ∧ sitesUnder anc cs = sitesUnder anc cs' := by
  obtain ⟨d, ch⟩ := c
  obtain ⟨d', ch'⟩ := c'
  simp only [sitesAt_node, List.cons_append, List.cons.injEq] at h ⊢
  obtain ⟨hhead, htail⟩ := h
  let deeper : Site → Bool := fun e => decide (anc.length < e.ancestors.length)
  have hbelow : ∀ {d : Dependency} {ch : List Node}, ∀ e ∈ sitesUnder (anc ++ [d]) ch,
      deeper e = true := fun e he => decide_eq_true (length_lt_of_mem_sitesUnder he)
  have hnext : ∀ {cs : List Node}, ∀ e ∈ (sitesUnder anc cs).head?, deeper e = false :=
    fun e he => by simp [deeper, ancestors_of_mem_head?_sitesUnder he]
  obtain ⟨hch, hcs⟩ := append_inj_of_span hbelow hbelow hnext hnext htail
  exact ⟨⟨hhead, hch⟩, hcs⟩

mutual

/-- Two nodes with the same sites below the same ancestors are equal. -/
theorem eq_of_sitesAt_eq (anc : List Dependency) :
    ∀ m n : Node, sitesAt anc m = sitesAt anc n → m = n
  | node d cs, node d' cs', h => by
    simp only [sitesAt_node, List.cons.injEq, Site.mk.injEq, true_and] at h
    obtain ⟨rfl, h⟩ := h
    rw [eq_of_sitesUnder_eq (anc ++ [d]) cs cs' h]

/-- Two lists of siblings with the same sites below the same ancestors are equal. -/
theorem eq_of_sitesUnder_eq (anc : List Dependency) :
    ∀ cs cs' : List Node, sitesUnder anc cs = sitesUnder anc cs' → cs = cs'
  | [], [], _ => rfl
  | [], node d ch :: cs, h => by simp at h
  | node d ch :: cs, [], h => by simp at h
  | c :: cs, c' :: cs', h => by
    rw [sitesUnder_cons, sitesUnder_cons] at h
    obtain ⟨hc, hcs⟩ := sitesAt_append_inj h
    rw [eq_of_sitesAt_eq anc c c' hc, eq_of_sitesUnder_eq anc cs cs' hcs]

end

/-- **A tree is determined by its root and its sites.** -/
theorem eq_of_sites_eq {m n : Node} (hroot : m.dependency = n.dependency)
    (hsites : m.sites = n.sites) : m = n := by
  obtain ⟨d, cs⟩ := m
  obtain ⟨d', cs'⟩ := n
  simp only [dependency_node] at hroot
  rw [hroot, eq_of_sitesUnder_eq [] cs cs' hsites]

end Node

namespace Selector

/-! ### Pruning keeps the root and the direct dependencies -/

@[simp] theorem dependency_pruneAt (s : Selector) (depth : Nat) (n : Node) :
    (s.pruneAt depth n).dependency = n.dependency := by
  obtain ⟨d, cs⟩ := n
  rw [pruneAt, Node.dependency_node, Node.dependency_node]

theorem pruneList_cons (s : Selector) (depth : Nat) (c : Node) (cs : List Node) :
    s.pruneList depth (c :: cs) =
      if s.select c.dependency depth then s.pruneAt (depth + 1) c :: s.pruneList depth cs
      else s.pruneList depth cs := by
  rw [pruneList]

/-- Siblings at depth 1 are all kept, each pruned below. -/
theorem pruneList_one (s : Selector) (cs : List Node) :
    s.pruneList 1 cs = cs.map (s.pruneAt 2) := by
  induction cs with
  | nil => rw [pruneList, List.map_nil]
  | cons c cs ih =>
    have hsel : s.select c.dependency 1 = true := by simp [select]
    rw [pruneList_cons, if_pos hsel, ih, List.map_cons]

/-- **Pruning keeps every direct dependency**, and prunes below each. -/
theorem children_prune (s : Selector) (root : Node) :
    (s.prune root).children = root.children.map (s.pruneAt 2) := by
  obtain ⟨d, cs⟩ := root
  rw [prune, pruneAt, Node.children_node, Node.children_node, pruneList_one]

/-! ### Pruning twice -/

/-- A selector with the union of two selectors' excluded scopes, that excludes optional
dependencies when either does, selects what both select. -/
theorem select_eq_and {s t u : Selector}
    (hscopes : ∀ x, x ∈ u.excludedScopes ↔ x ∈ s.excludedScopes ∨ x ∈ t.excludedScopes)
    (hopt : u.excludeOptionals = (s.excludeOptionals || t.excludeOptionals))
    (d : Dependency) (depth : Nat) :
    u.select d depth = (s.select d depth && t.select d depth) := by
  have hcontains : u.excludedScopes.contains d.scope =
      (s.excludedScopes.contains d.scope || t.excludedScopes.contains d.scope) := by
    rw [Bool.eq_iff_iff, Bool.or_eq_true, List.contains_iff_mem, List.contains_iff_mem,
      List.contains_iff_mem]
    exact hscopes d.scope
  simp only [select, hcontains, hopt]
  -- what is left is an identity of the six tests the selectors make
  generalize decide (depth < 2) = near
  generalize s.excludedScopes.contains d.scope = inS
  generalize t.excludedScopes.contains d.scope = inT
  generalize s.excludeOptionals = optS
  generalize t.excludeOptionals = optT
  generalize d.optional = opt
  revert near inS inT optS optT opt
  decide

section Twice

variable {s t u : Selector}

mutual

/-- **Pruning by `t` and then by `s` is pruning by `u`** when `u` selects exactly what both
select. -/
theorem pruneAt_pruneAt (h : ∀ d depth, u.select d depth = (s.select d depth && t.select d depth)) :
    ∀ depth n, s.pruneAt depth (t.pruneAt depth n) = u.pruneAt depth n
  | depth, .node d cs => by
    rw [pruneAt, pruneAt, pruneAt, pruneList_pruneList h depth cs]

/-- Pruning siblings by `t` and then by `s` is pruning them by `u`. -/
theorem pruneList_pruneList (h : ∀ d depth, u.select d depth = (s.select d depth && t.select d depth)) :
    ∀ depth cs, s.pruneList depth (t.pruneList depth cs) = u.pruneList depth cs
  | _, [] => by simp only [pruneList]
  | depth, c :: cs => by
    have hu := h c.dependency depth
    rw [pruneList_cons t, pruneList_cons u]
    by_cases ht : t.select c.dependency depth
    · -- `t` keeps the sibling, so `s` sees it, with the same dependency
      by_cases hs : s.select c.dependency depth
      · rw [if_pos ht, pruneList_cons, dependency_pruneAt, if_pos hs,
          if_pos (by simp [hu, hs, ht]), pruneAt_pruneAt h, pruneList_pruneList h depth cs]
      · rw [if_pos ht, pruneList_cons, dependency_pruneAt, if_neg hs, if_neg (by simp [hu, hs]),
          pruneList_pruneList h depth cs]
    · rw [if_neg ht, if_neg (by simp [hu, ht]), pruneList_pruneList h depth cs]

end

theorem prune_prune (h : ∀ d depth, u.select d depth = (s.select d depth && t.select d depth))
    (root : Node) : s.prune (t.prune root) = u.prune root :=
  pruneAt_pruneAt h 1 root

end Twice

/-- **Pruning is idempotent.** -/
theorem prune_idempotent (s : Selector) (root : Node) : s.prune (s.prune root) = s.prune root :=
  prune_prune (fun _ _ => (Bool.and_self _).symm) root

/-! ### The laws of pruning -/

/-- **What pruning does.** Pruning a tree keeps its root and every direct dependency, and
leaves exactly the sites the selector keeps, in order and with the same ancestors, hence at the
same depth; no other tree has that root and those sites. Pruning again by the same selector
changes nothing, and pruning by two selectors, in either order, is pruning by any selector that
excludes the union of their scopes and excludes optional dependencies when either does. -/
theorem prune_laws (s t : Selector) (root : Node) :
    (s.prune root).dependency = root.dependency ∧
    (s.prune root).children.map Node.dependency = root.children.map Node.dependency ∧
    (s.prune root).sites = root.sites.filter s.keeps ∧
    (∀ n : Node, n.dependency = root.dependency → n.sites = root.sites.filter s.keeps →
      n = s.prune root) ∧
    s.prune (s.prune root) = s.prune root ∧
    (∀ u : Selector,
      (∀ x, x ∈ u.excludedScopes ↔ x ∈ s.excludedScopes ∨ x ∈ t.excludedScopes) →
      u.excludeOptionals = (s.excludeOptionals || t.excludeOptionals) →
      s.prune (t.prune root) = u.prune root ∧ t.prune (s.prune root) = u.prune root) := by
  refine ⟨dependency_pruneAt s 1 root, ?_, sites_prune s root, ?_, prune_idempotent s root, ?_⟩
  · rw [children_prune, List.map_map]
    exact List.map_congr_left fun n _ => dependency_pruneAt s 2 n
  · intro n hroot hsites
    exact Node.eq_of_sites_eq (hroot.trans (dependency_pruneAt s 1 root).symm)
      (hsites.trans (sites_prune s root).symm)
  · intro u hscopes hopt
    have hst := select_eq_and hscopes hopt
    -- the same selector drops what `t` and `s` drop, in the other order
    have hts := select_eq_and (s := t) (t := s) (fun x => (hscopes x).trans or_comm)
      (hopt.trans (Bool.or_comm _ _))
    exact ⟨prune_prune hst root, prune_prune hts root⟩

/-- Pruning test dependencies and pruning provided and optional ones, in either order, is
pruning all three at once, on every tree; pruning test dependencies twice prunes them once. -/
theorem prune_laws_testAndOptional :
    ∀ root : Node,
      prune { excludedScopes := ["test"] }
          (prune { excludedScopes := ["provided"], excludeOptionals := true } root) =
        prune { excludedScopes := ["test", "provided"], excludeOptionals := true } root ∧
      prune { excludedScopes := ["provided"], excludeOptionals := true }
          (prune { excludedScopes := ["test"] } root) =
        prune { excludedScopes := ["test", "provided"], excludeOptionals := true } root ∧
      prune { excludedScopes := ["test"] } (prune { excludedScopes := ["test"] } root) =
        prune { excludedScopes := ["test"] } root := by
  intro root
  have hscopes : ∀ x, x ∈ ["test", "provided"] ↔ x ∈ ["test"] ∨ x ∈ ["provided"] := by
    simp
  have h := prune_laws { excludedScopes := ["test"] }
    { excludedScopes := ["provided"], excludeOptionals := true } root
  have hboth := h.2.2.2.2.2 { excludedScopes := ["test", "provided"], excludeOptionals := true }
    hscopes rfl
  exact ⟨hboth.1, hboth.2, h.2.2.2.2.1⟩

end Selector

end PinAudit
