import PinAudit.Tree.Walk

/-!
# Sites of a tree, and what a walk visits

A *site* is a node below the root of a tree seen the way an audit sees it: the dependencies
of its ancestors, root side first and the root itself excluded, and its own dependency.
`Node.sites` lists the sites of a tree in document pre-order. Sites are closed under
ancestors (`Node.mem_sites_of_ancestors`): the ancestors of a site are sites themselves, each
with the ancestors before it.

A walk enters the nodes below the root in the same order, except that it does not go below a
node whose children the visitor skips. The ancestor path it shows the visitor is pushed on
entering a node, and the node's frame pops it when dropped after the children: the children
give back the path their parent's frame showed them, so a walk gives back the path it started
on (`Node.walkList_path`), and the path holds the chain of entered nodes above the current one
and nothing of earlier siblings or their subtrees. For a visitor whose answers
depend on the entered node's dependency alone (`Visitor.IsFold`), this makes the whole walk a
fold of the visitor's step over the sites none of whose ancestors it skips below
(`Node.walk_eq_foldl`).

Main definitions: `Site`, `Node.sites`, `Visitor.IsFold`.
-/

namespace PinAudit

/-- **A place below the root of a tree**: the dependencies of the ancestors, root side first
and the root excluded, and the dependency of the node at that place. -/
structure Site where
  ancestors : List Dependency
  dependency : Dependency
  deriving DecidableEq, Repr

namespace Site

/-- The dependencies on the way down to the site, the site's own last. -/
def chain (e : Site) : List Dependency := e.ancestors ++ [e.dependency]

/-- A site is **clear of** the dependencies `stop` picks when none of its ancestors is one. -/
def clearOf (stop : Dependency → Bool) (e : Site) : Bool :=
  e.ancestors.all fun d => !stop d

end Site

namespace Node

/-! ### The path a walk keeps -/

section Path

variable {σ : Type} {v : Visitor σ}

mutual

/-- **Walking a node gives the path back**: a node whose children are walked is pushed on
entering it, its children give back the path its frame shows, and the frame's drop pops it. -/
theorem walkNode_path (path : AncestorPath) (s : σ) : ∀ n, (walkNode v path s n).2 = path
  | node d cs => by
    rcases he : v.enter s (node d cs) path.nodes with ⟨s₁, act⟩
    cases act
    · rcases hl : walkList v (path.enter (node d cs)).path s₁ cs with ⟨s', inner⟩
      have hinner : inner = (path.enter (node d cs)).path := by
        rw [← walkList_path (path.enter (node d cs)).path s₁ cs, hl]
      simp only [walkNode, he, hl, hinner]
      exact PathFrame.drop_enter path (node d cs)
    · simp only [walkNode, he]

/-- **Walking siblings gives the path back**, each sibling giving back the path it was given. -/
theorem walkList_path (path : AncestorPath) (s : σ) : ∀ cs, (walkList v path s cs).2 = path
  | [] => rfl
  | c :: cs => by
    rcases hc : walkNode v path s c with ⟨s', p'⟩
    have hp' : p' = path := by rw [← walkNode_path path s c, hc]
    simp only [walkList, hc, hp']
    exact walkList_path path s' cs

end

/-- A node that continues is left after its children, walked on the path with it pushed. -/
theorem walkNode_continue {path : AncestorPath} {s s₁ : σ} {d : Dependency} {cs : List Node}
    (he : v.enter s (node d cs) path.nodes = (s₁, .continue)) :
    walkNode v path s (node d cs) =
      (v.leave (walkList v (path.enter (node d cs)).path s₁ cs).1 (node d cs), path) := by
  rcases hl : walkList v (path.enter (node d cs)).path s₁ cs with ⟨s', inner⟩
  have hinner : inner = (path.enter (node d cs)).path := by
    rw [← walkList_path (path.enter (node d cs)).path s₁ cs, hl]
  simp only [walkNode, he, hl, hinner, Prod.mk.injEq, true_and]
  exact PathFrame.drop_enter path (node d cs)

/-- A node whose children are skipped is left at once, the path untouched. -/
theorem walkNode_skip {path : AncestorPath} {s s₁ : σ} {d : Dependency} {cs : List Node}
    (he : v.enter s (node d cs) path.nodes = (s₁, .skipChildren)) :
    walkNode v path s (node d cs) = (v.leave s₁ (node d cs), path) := by
  simp only [walkNode, he]

@[simp] theorem walkList_nil (path : AncestorPath) (s : σ) :
    walkList v path s [] = (s, path) := rfl

/-- The next sibling is walked on the path the walk was given. -/
theorem walkList_cons (path : AncestorPath) (s : σ) (c : Node) (cs : List Node) :
    walkList v path s (c :: cs) = walkList v path (walkNode v path s c).1 cs := by
  rcases hc : walkNode v path s c with ⟨s', p'⟩
  have hp' : p' = path := by rw [← walkNode_path path s c, hc]
  simp only [walkList, hc, hp']

end Path

mutual

/-- The sites of a node and of everything below it, the node first, when the dependencies of
the node's ancestors are `anc`. -/
def sitesAt (anc : List Dependency) : Node → List Site
  | node d cs => ⟨anc, d⟩ :: sitesUnder (anc ++ [d]) cs

/-- The sites of a list of siblings with ancestors `anc`, one subtree after the other. -/
def sitesUnder (anc : List Dependency) : List Node → List Site
  | [] => []
  | c :: cs => sitesAt anc c ++ sitesUnder anc cs

end

/-- **The sites of a tree**, below its root and in document pre-order. -/
def sites (root : Node) : List Site := sitesUnder [] root.children

@[simp] theorem sitesAt_node (anc : List Dependency) (d : Dependency) (cs : List Node) :
    sitesAt anc (node d cs) = ⟨anc, d⟩ :: sitesUnder (anc ++ [d]) cs := by
  rw [sitesAt]

@[simp] theorem sitesUnder_nil (anc : List Dependency) : sitesUnder anc [] = [] := by
  rw [sitesUnder]

@[simp] theorem sitesUnder_cons (anc : List Dependency) (c : Node) (cs : List Node) :
    sitesUnder anc (c :: cs) = sitesAt anc c ++ sitesUnder anc cs := by
  rw [sitesUnder]

/-! ### Ancestors of sites -/

mutual

/-- The sites below a node extend the node's own ancestors. -/
theorem ancestors_prefix_of_mem_sitesAt (anc : List Dependency) {e : Site} :
    ∀ n, e ∈ sitesAt anc n → anc <+: e.ancestors
  | node d cs, h => by
    rcases List.mem_cons.1 (sitesAt_node anc d cs ▸ h) with rfl | h
    · exact List.prefix_refl _
    · exact (List.prefix_append anc [d]).trans (ancestors_prefix_of_mem_sitesUnder _ cs h)

/-- The sites below a list of siblings extend the siblings' ancestors. -/
theorem ancestors_prefix_of_mem_sitesUnder (anc : List Dependency) {e : Site} :
    ∀ cs, e ∈ sitesUnder anc cs → anc <+: e.ancestors
  | [], h => by simp at h
  | c :: cs, h => by
    rcases List.mem_append.1 (sitesUnder_cons anc c cs ▸ h) with h | h
    · exact ancestors_prefix_of_mem_sitesAt anc c h
    · exact ancestors_prefix_of_mem_sitesUnder anc cs h

end

/-- A site strictly below a node has the node's dependency among its ancestors. -/
theorem mem_ancestors_of_mem_sitesUnder {anc : List Dependency} {d : Dependency} {cs : List Node}
    {e : Site} (h : e ∈ sitesUnder (anc ++ [d]) cs) : d ∈ e.ancestors := by
  obtain ⟨rest, hrest⟩ := ancestors_prefix_of_mem_sitesUnder _ cs h
  simp [← hrest]

mutual

/-- An ancestor of a site below a node is itself a site below that node. -/
theorem mem_sitesAt_of_ancestors (anc pre : List Dependency) (d : Dependency)
    (rest : List Dependency) {e : Site} :
    ∀ n, e ∈ sitesAt anc n → e.ancestors = anc ++ pre ++ d :: rest →
      (⟨anc ++ pre, d⟩ : Site) ∈ sitesAt anc n
  | node d' cs, h, he => by
    rw [sitesAt_node] at h ⊢
    rcases List.mem_cons.1 h with rfl | h
    · simp at he
    -- the site's ancestors run through `d'`, so the ancestor named is `d'` or lies below it
    obtain ⟨tail, htail⟩ := ancestors_prefix_of_mem_sitesUnder _ cs h
    cases pre with
    | nil =>
      have : d' = d := by simp [← htail] at he; exact he.1
      simp [this]
    | cons p pre =>
      have hp : d' = p := by simp [← htail] at he; exact he.1
      subst hp
      have he' : e.ancestors = anc ++ [d'] ++ pre ++ d :: rest := by simpa using he
      have := mem_sitesAt_of_ancestors_under (anc ++ [d']) pre d rest cs h he'
      simp only [List.append_assoc, List.singleton_append] at this
      exact List.mem_cons_of_mem _ this

/-- An ancestor of a site below a list of siblings is itself a site below them. -/
theorem mem_sitesAt_of_ancestors_under (anc pre : List Dependency) (d : Dependency)
    (rest : List Dependency) {e : Site} :
    ∀ cs, e ∈ sitesUnder anc cs → e.ancestors = anc ++ pre ++ d :: rest →
      (⟨anc ++ pre, d⟩ : Site) ∈ sitesUnder anc cs
  | [], h, _ => by simp at h
  | c :: cs, h, he => by
    rw [sitesUnder_cons] at h ⊢
    rcases List.mem_append.1 h with h | h
    · exact List.mem_append_left _ (mem_sitesAt_of_ancestors anc pre d rest c h he)
    · exact List.mem_append_right _ (mem_sitesAt_of_ancestors_under anc pre d rest cs h he)

end

/-- **Sites are closed under ancestors**: the `pre.length`-th ancestor of a site of a tree is
a site of the tree, with the ancestors `pre` before it. -/
theorem mem_sites_of_ancestors {root : Node} {e : Site} (h : e ∈ root.sites)
    {pre rest : List Dependency} {d : Dependency} (he : e.ancestors = pre ++ d :: rest) :
    (⟨pre, d⟩ : Site) ∈ root.sites :=
  mem_sitesAt_of_ancestors_under [] pre d rest root.children h (by simpa using he)

/-- No site strictly below a node that `stop` picks is clear of `stop`. -/
theorem filter_clearOf_sitesUnder_eq_nil {stop : Dependency → Bool} {d : Dependency}
    (hd : stop d = true) (anc : List Dependency) (cs : List Node) :
    (sitesUnder (anc ++ [d]) cs).filter (Site.clearOf stop) = [] := by
  refine List.filter_eq_nil_iff.2 fun e he => ?_
  simpa [Site.clearOf] using ⟨d, mem_ancestors_of_mem_sitesUnder he, hd⟩

end Node

/-! ### Walks as folds over sites -/

/-- A visitor **is a fold** of `step`, seen through `π`, that skips below the dependencies
`stop` picks: on entering a node it takes one `step` over the node's site and answers by the
node's dependency alone, and leaving a node changes nothing that `π` sees. -/
structure Visitor.IsFold {σ τ : Type} (v : Visitor σ) (π : σ → τ) (step : τ → Site → τ)
    (stop : Dependency → Bool) : Prop where
  enter_fst : ∀ s n path,
    π (v.enter s n path).1 = step (π s) ⟨path.map Node.dependency, n.dependency⟩
  enter_snd : ∀ s n path,
    (v.enter s n path).2 = if stop n.dependency then .skipChildren else .continue
  leave_eq : ∀ s n, π (v.leave s n) = π s

namespace Node

section Fold

variable {σ τ : Type} {v : Visitor σ} {π : σ → τ} {step : τ → Site → τ}
  {stop : Dependency → Bool}

mutual

/-- Walking a node with a clear ancestor path folds `step` over its clear sites. -/
theorem walkNode_eq_foldl (hv : v.IsFold π step stop) (path : AncestorPath) (s : σ)
    (hpath : ∀ m ∈ path.nodes, stop m.dependency = false) :
    ∀ n, π (walkNode v path s n).1 =
      ((sitesAt (path.nodes.map dependency) n).filter (Site.clearOf stop)).foldl step (π s)
  | node d cs => by
    have hclear : Site.clearOf stop ⟨path.nodes.map dependency, d⟩ = true := by
      simpa [Site.clearOf] using hpath
    have hfst := hv.enter_fst s (node d cs) path.nodes
    have hsnd := hv.enter_snd s (node d cs) path.nodes
    rcases he : v.enter s (node d cs) path.nodes with ⟨s₁, act⟩
    rw [he] at hfst hsnd
    simp only [dependency_node] at hfst hsnd
    rw [sitesAt_node, List.filter_cons_of_pos hclear, List.foldl_cons, ← hfst]
    cases hd : stop d
    · -- the node is pushed: its children are walked below the longer, still clear path
      simp only [hd, Bool.false_eq_true, if_false] at hsnd
      subst hsnd
      have hpath' : ∀ m ∈ (path.enter (node d cs)).path.nodes, stop m.dependency = false := by
        simp only [AncestorPath.enter_path, List.mem_append, List.mem_singleton]
        rintro m (hm | rfl)
        · exact hpath m hm
        · exact hd
      rw [walkNode_continue he]
      simpa [hv.leave_eq] using walkList_eq_foldl hv (path.enter (node d cs)).path s₁ hpath' cs
    · simp only [hd, if_true] at hsnd
      subst hsnd
      rw [walkNode_skip he]
      simp [hv.leave_eq, filter_clearOf_sitesUnder_eq_nil hd]

/-- Walking siblings with a clear ancestor path folds `step` over their clear sites. -/
theorem walkList_eq_foldl (hv : v.IsFold π step stop) (path : AncestorPath) (s : σ)
    (hpath : ∀ m ∈ path.nodes, stop m.dependency = false) :
    ∀ cs, π (walkList v path s cs).1 =
      ((sitesUnder (path.nodes.map dependency) cs).filter (Site.clearOf stop)).foldl step (π s)
  | [] => by simp
  | c :: cs => by
    rw [walkList_cons, sitesUnder_cons, List.filter_append, List.foldl_append,
      walkList_eq_foldl hv path _ hpath cs, walkNode_eq_foldl hv path s hpath c]

end

/-- **A walk is a fold over the clear sites**: through `π`, a visitor that folds `step` and
skips below the dependencies `stop` picks ends where `step` gets to over the sites of the tree,
in pre-order, none of whose ancestors `stop` picks. -/
theorem walk_eq_foldl (hv : v.IsFold π step stop) (s : σ) (root : Node) :
    π (root.walk v s) = (root.sites.filter (Site.clearOf stop)).foldl step (π s) := by
  simpa [walk, sites] using walkList_eq_foldl hv {} s (by simp) root.children

end Fold

end Node

end PinAudit
