import PinAudit.Proofs.Walk

/-!
# The calls a walk makes on its visitor

A walk is checked here against every visitor by recording it: `Visitor.recorded` answers as
the visitor it wraps, runs it unchanged, and writes down each call made on it with the answer
given. Two descriptions of a correct walk, neither of them shaped like the walk's recursion, fix
the recorded calls.

* **The ancestor stack** (`StackRun`). Each enter is passed the stack of nodes that were
  entered, answered to continue and not yet left, root side first. A node that continues is
  pushed and is popped by its own leave; a node whose children are skipped is left at once and
  touches the stack in no way. A run from the empty stack back to the empty stack pops every
  pushed node exactly once and nothing else.
* **Pre-order with cut subtrees** (`cutBelowSkips`). The entered places, each with its path and
  answer, are the places of the tree in document pre-order, except that the places below a node
  whose children are skipped are passed over. The root is not one of the places.

Together the two fix the whole run of calls: the second gives the enters, and the first the
leaves between them, since the path of the next enter tells how many of the entered nodes are
left before it.

Main statement: `Node.walk_calls`.
-/

namespace PinAudit

/-- **A call of a walk on its visitor**: entering a node, with its entered ancestors (root side
first) and the visitor's answer, or leaving a node. -/
inductive Call where
  | enter (n : Node) (path : List Node) (answer : Action)
  | leave (n : Node)

/-- The place an enter call is at, with the answer given there. -/
def Call.entry : Call → Option ((List Node × Node) × Action)
  | enter n path a => some ((path, n), a)
  | leave _ => none

/-- The places a run of calls enters, in order, each with the answer given there. -/
def entered (calls : List Call) : List ((List Node × Node) × Action) :=
  calls.filterMap Call.entry

@[simp] theorem entered_nil : entered [] = [] := rfl

@[simp] theorem entered_cons_enter (n : Node) (path : List Node) (a : Action) (calls : List Call) :
    entered (.enter n path a :: calls) = ((path, n), a) :: entered calls := rfl

@[simp] theorem entered_cons_leave (n : Node) (calls : List Call) :
    entered (.leave n :: calls) = entered calls := rfl

@[simp] theorem entered_append (calls calls' : List Call) :
    entered (calls ++ calls') = entered calls ++ entered calls' :=
  List.filterMap_append

/-! ### The ancestor stack -/

/-- **Calls that keep the ancestor stack**, from stack `st` to stack `st'`: every enter is passed
the stack as its path; a node that continues is pushed, and its leave pops it off the top; a
node whose children are skipped is left next, with the stack as it was. -/
inductive StackRun : List Node → List Call → List Node → Prop
  | nil (st : List Node) : StackRun st [] st
  | skip {st st' : List Node} {n : Node} {calls : List Call} :
      StackRun st calls st' → StackRun st (.enter n st .skipChildren :: .leave n :: calls) st'
  | push {st st' : List Node} {n : Node} {calls : List Call} :
      StackRun (st ++ [n]) calls st' → StackRun st (.enter n st .continue :: calls) st'
  | pop {st st' : List Node} {n : Node} {calls : List Call} :
      StackRun st calls st' → StackRun (st ++ [n]) (.leave n :: calls) st'

/-- Runs that keep the stack compose. -/
theorem StackRun.append {st st' st'' : List Node} {calls calls' : List Call}
    (h : StackRun st calls st') (h' : StackRun st' calls' st'') :
    StackRun st (calls ++ calls') st'' := by
  induction h with
  | nil => exact h'
  | skip _ ih => exact .skip (ih h')
  | push _ ih => exact .push (ih h')
  | pop _ ih => exact .pop (ih h')

/-! ### Places in pre-order, cut below skipped nodes -/

namespace Node

mutual

/-- The places of a node and of everything below it, the node first, when its entered
ancestors are `path`: each place is a node with the nodes above it, root side first. -/
def positionsAt (path : List Node) : Node → List (List Node × Node)
  | node d cs => (path, node d cs) :: positionsUnder (path ++ [node d cs]) cs

/-- The places of a list of siblings with ancestors `path`, one subtree after the other. -/
def positionsUnder (path : List Node) : List Node → List (List Node × Node)
  | [] => []
  | c :: cs => positionsAt path c ++ positionsUnder path cs

end

/-- **The places of a tree**, below its root and in document pre-order. -/
def positions (root : Node) : List (List Node × Node) := positionsUnder [] root.children

@[simp] theorem positionsAt_node (path : List Node) (d : Dependency) (cs : List Node) :
    positionsAt path (node d cs) = (path, node d cs) :: positionsUnder (path ++ [node d cs]) cs := by
  rw [positionsAt]

@[simp] theorem positionsUnder_nil (path : List Node) : positionsUnder path [] = [] := by
  rw [positionsUnder]

@[simp] theorem positionsUnder_cons (path : List Node) (c : Node) (cs : List Node) :
    positionsUnder path (c :: cs) = positionsAt path c ++ positionsUnder path cs := by
  rw [positionsUnder]

mutual

/-- The places below a node lie no higher than the node. -/
theorem length_le_of_mem_positionsAt {path : List Node} {q : List Node × Node} :
    ∀ n, q ∈ positionsAt path n → path.length ≤ q.1.length
  | node d cs, h => by
    rcases List.mem_cons.1 (positionsAt_node path d cs ▸ h) with rfl | h
    · exact Nat.le_refl _
    · have := length_le_of_mem_positionsUnder cs h
      simp only [List.length_append, List.length_singleton] at this
      omega

/-- The places below a list of siblings lie no higher than the siblings. -/
theorem length_le_of_mem_positionsUnder {path : List Node} {q : List Node × Node} :
    ∀ cs, q ∈ positionsUnder path cs → path.length ≤ q.1.length
  | [], h => by simp at h
  | c :: cs, h => by
    rcases List.mem_append.1 (positionsUnder_cons path c cs ▸ h) with h | h
    · exact length_le_of_mem_positionsAt c h
    · exact length_le_of_mem_positionsUnder cs h

end

mutual

/-- The node at a place below a node has no more descendants than that node. -/
theorem descendantCount_le_of_mem_positionsAt {path : List Node} {q : List Node × Node} :
    ∀ n, q ∈ positionsAt path n → q.2.descendantCount ≤ n.descendantCount
  | node d cs, h => by
    rcases List.mem_cons.1 (positionsAt_node path d cs ▸ h) with rfl | h
    · exact Nat.le_refl _
    · exact Nat.le_of_lt (descendantCount_lt_of_mem_positionsUnder cs h)

/-- The node at a place below a list of siblings has fewer descendants than the siblings
have together. -/
theorem descendantCount_lt_of_mem_positionsUnder {path : List Node} {q : List Node × Node} :
    ∀ cs, q ∈ positionsUnder path cs → q.2.descendantCount < descendantsOf cs
  | [], h => by simp at h
  | c :: cs, h => by
    rw [descendantsOf]
    rcases List.mem_append.1 (positionsUnder_cons path c cs ▸ h) with h | h
    · have := descendantCount_le_of_mem_positionsAt c h
      omega
    · have := descendantCount_lt_of_mem_positionsUnder cs h
      omega

end

/-- **The root is at none of the places of its tree**: a node at a place has fewer
descendants. -/
theorem ne_of_mem_positions {root : Node} {q : List Node × Node} (h : q ∈ root.positions) :
    q.2 ≠ root := by
  cases root with
  | node d cs =>
    have := descendantCount_lt_of_mem_positionsUnder cs h
    intro hq
    rw [hq, descendantCount] at this
    exact Nat.lt_irrefl _ this

end Node

/-- **The places a walk enters**, out of the places `ps` in pre-order, when `as` are the answers
given at the entered places in turn: each place is entered, and after one answered with a skip
the places below it (those that follow it with a longer path) are passed over. Once the answers
run out nothing more is passed over, so a walk that stops early enters fewer places than these. -/
def cutBelowSkips : List (List Node × Node) → List Action → List (List Node × Node)
  | [], _ => []
  | q :: ps, [] => q :: ps
  | q :: ps, a :: as =>
    q :: match a with
      | .continue => cutBelowSkips ps as
      | .skipChildren => cutBelowSkips (ps.dropWhile fun q' => q.1.length < q'.1.length) as
termination_by ps => ps.length
decreasing_by
  · exact Nat.lt_succ_self _
  · exact Nat.lt_succ_of_le (List.dropWhile_sublist _).length_le

@[simp] theorem cutBelowSkips_nil (as : List Action) : cutBelowSkips [] as = [] := by
  rw [cutBelowSkips]

theorem cutBelowSkips_continue (q : List Node × Node) (ps : List (List Node × Node))
    (as : List Action) :
    cutBelowSkips (q :: ps) (.continue :: as) = q :: cutBelowSkips ps as := by
  rw [cutBelowSkips]

theorem cutBelowSkips_skip (q : List Node × Node) (ps : List (List Node × Node))
    (as : List Action) :
    cutBelowSkips (q :: ps) (.skipChildren :: as) =
      q :: cutBelowSkips (ps.dropWhile fun q' => q.1.length < q'.1.length) as := by
  rw [cutBelowSkips]

/-- A place entered is one of the places it is cut from. -/
theorem mem_of_mem_cutBelowSkips {q' : List Node × Node} :
    ∀ {ps : List (List Node × Node)} {as : List Action}, q' ∈ cutBelowSkips ps as → q' ∈ ps
  | [], _, h => by simp at h
  | _ :: _, [], h => by rwa [cutBelowSkips] at h
  | q :: ps, .continue :: as, h => by
    rcases List.mem_cons.1 (cutBelowSkips_continue q ps as ▸ h) with rfl | h
    · exact List.mem_cons_self
    · exact List.mem_cons_of_mem _ (mem_of_mem_cutBelowSkips h)
  | q :: ps, .skipChildren :: as, h => by
    rcases List.mem_cons.1 (cutBelowSkips_skip q ps as ▸ h) with rfl | h
    · exact List.mem_cons_self
    · exact List.mem_cons_of_mem _ ((List.dropWhile_sublist _).subset (mem_of_mem_cutBelowSkips h))
termination_by ps => ps.length
decreasing_by
  · exact Nat.lt_succ_self _
  · exact Nat.lt_succ_of_le (List.dropWhile_sublist _).length_le

/-! ### Recording a visitor -/

/-- A visitor state together with the calls made so far. -/
structure Recording (σ : Type) where
  state : σ
  calls : List Call

/-- The record `r` with the calls `pre` made before its own. -/
def Recording.after {σ : Type} (pre : List Call) (r : Recording σ) : Recording σ :=
  ⟨r.state, pre ++ r.calls⟩

namespace Visitor

variable {σ τ : Type}

/-- **The visitor `v`, recorded**: it answers as `v` does and writes down each call made on it,
with the answer given to an enter. -/
def recorded (v : Visitor σ) : Visitor (Recording σ) where
  enter r n path :=
    (⟨(v.enter r.state n path).1, r.calls ++ [.enter n path (v.enter r.state n path).2]⟩,
      (v.enter r.state n path).2)
  leave r n := ⟨v.leave r.state n, r.calls ++ [.leave n]⟩

@[simp] theorem recorded_enter (v : Visitor σ) (r : Recording σ) (n : Node) (path : List Node) :
    v.recorded.enter r n path =
      (⟨(v.enter r.state n path).1, r.calls ++ [.enter n path (v.enter r.state n path).2]⟩,
        (v.enter r.state n path).2) := rfl

@[simp] theorem recorded_leave (v : Visitor σ) (r : Recording σ) (n : Node) :
    v.recorded.leave r n = ⟨v.leave r.state n, r.calls ++ [.leave n]⟩ := rfl

/-- The map `f` of states **runs `w` as `v`**: it takes each step of `w` to the same step of
`v`, and `w` answers as `v` does. -/
structure Simulates (f : τ → σ) (w : Visitor τ) (v : Visitor σ) : Prop where
  enter_fst : ∀ t n path, f (w.enter t n path).1 = (v.enter (f t) n path).1
  enter_snd : ∀ t n path, (w.enter t n path).2 = (v.enter (f t) n path).2
  leave : ∀ t n, f (w.leave t n) = v.leave (f t) n

/-- A recorded visitor runs the visitor it records. -/
theorem recorded_simulates (v : Visitor σ) : Simulates Recording.state v.recorded v :=
  ⟨fun _ _ _ => rfl, fun _ _ _ => rfl, fun _ _ => rfl⟩

/-- Calls made before do not change what a recorded visitor writes down next. -/
theorem recorded_simulates_after (v : Visitor σ) (pre : List Call) :
    Simulates (Recording.after pre) v.recorded v.recorded :=
  ⟨fun _ _ _ => by simp [Recording.after], fun _ _ _ => rfl, fun _ _ => by simp [Recording.after]⟩

end Visitor

namespace Node

section Simulation

variable {σ τ : Type} {f : τ → σ} {w : Visitor τ} {v : Visitor σ}

mutual

/-- Walking a node commutes with a simulation. -/
theorem walkNode_simulates (h : w.Simulates f v) (path : AncestorPath) (t : τ) :
    ∀ n, f (walkNode w path t n).1 = (walkNode v path (f t) n).1
  | node d cs => by
    have hfst := h.enter_fst t (node d cs) path.nodes
    have hsnd := h.enter_snd t (node d cs) path.nodes
    rcases hw : w.enter t (node d cs) path.nodes with ⟨t₁, act⟩
    rcases hv : v.enter (f t) (node d cs) path.nodes with ⟨s₁, act'⟩
    rw [hw, hv] at hfst hsnd
    simp only at hfst hsnd
    subst hfst hsnd
    cases act
    · rw [walkNode_continue hw, walkNode_continue hv]
      simp only [h.leave, walkList_simulates h _ t₁ cs]
    · rw [walkNode_skip hw, walkNode_skip hv]
      simp only [h.leave]

/-- Walking siblings commutes with a simulation. -/
theorem walkList_simulates (h : w.Simulates f v) (path : AncestorPath) (t : τ) :
    ∀ cs, f (walkList w path t cs).1 = (walkList v path (f t) cs).1
  | [] => rfl
  | c :: cs => by
    rw [walkList_cons, walkList_cons, walkList_simulates h path _ cs, walkNode_simulates h path t c]

end

end Simulation

section Record

variable {σ : Type} (v : Visitor σ)

/-- The record of walking one node with entered ancestors `path`, from state `s`. -/
def recordNode (path : List Node) (s : σ) (n : Node) : Recording σ :=
  (walkNode v.recorded ⟨path⟩ ⟨s, []⟩ n).1

/-- The record of walking siblings with entered ancestors `path`, from state `s`. -/
def recordList (path : List Node) (s : σ) (ns : List Node) : Recording σ :=
  (walkList v.recorded ⟨path⟩ ⟨s, []⟩ ns).1

/-- **The record of a walk** below a root with the visitor `v`, from state `s`. -/
def record (s : σ) (root : Node) : Recording σ :=
  root.walk v.recorded ⟨s, []⟩

theorem record_eq_recordList (s : σ) (root : Node) :
    record v s root = recordList v [] s root.children := rfl

theorem recordNode_state (path : List Node) (s : σ) (n : Node) :
    (recordNode v path s n).state = (walkNode v ⟨path⟩ s n).1 :=
  walkNode_simulates v.recorded_simulates ⟨path⟩ ⟨s, []⟩ n

theorem walkList_recorded (path : List Node) (s : σ) (pre : List Call) (ns : List Node) :
    (walkList v.recorded ⟨path⟩ ⟨s, pre⟩ ns).1 = (recordList v path s ns).after pre := by
  have := walkList_simulates (v.recorded_simulates_after pre) ⟨path⟩ ⟨s, []⟩ ns
  simp only [Recording.after, List.append_nil] at this
  exact this.symm

/-- Entering a node that continues: the enter, the calls below it, and its leave. -/
theorem recordNode_calls_of_continue {path : List Node} {s s₁ : σ} {d : Dependency}
    {cs : List Node} (he : v.enter s (node d cs) path = (s₁, .continue)) :
    (recordNode v path s (node d cs)).calls =
      .enter (node d cs) path .continue ::
        (recordList v (path ++ [node d cs]) s₁ cs).calls ++ [.leave (node d cs)] := by
  have hr : v.recorded.enter ⟨s, []⟩ (node d cs) (⟨path⟩ : AncestorPath).nodes =
      (⟨s₁, [.enter (node d cs) path .continue]⟩, .continue) := by
    simp [he]
  rw [recordNode, walkNode_continue hr]
  simp [walkList_recorded, Recording.after]

/-- Entering a node whose children are skipped: the enter and, next, its leave. -/
theorem recordNode_calls_of_skip {path : List Node} {s s₁ : σ} {d : Dependency}
    {cs : List Node} (he : v.enter s (node d cs) path = (s₁, .skipChildren)) :
    (recordNode v path s (node d cs)).calls =
      [.enter (node d cs) path .skipChildren, .leave (node d cs)] := by
  have hr : v.recorded.enter ⟨s, []⟩ (node d cs) (⟨path⟩ : AncestorPath).nodes =
      (⟨s₁, [.enter (node d cs) path .skipChildren]⟩, .skipChildren) := by
    simp [he]
  rw [recordNode, walkNode_skip hr]
  simp

@[simp] theorem recordList_calls_nil (path : List Node) (s : σ) :
    (recordList v path s []).calls = [] := rfl

theorem recordList_calls_cons (path : List Node) (s : σ) (c : Node) (cs : List Node) :
    (recordList v path s (c :: cs)).calls =
      (recordNode v path s c).calls ++
        (recordList v path (walkNode v ⟨path⟩ s c).1 cs).calls := by
  have hc : (walkNode v.recorded ⟨path⟩ ⟨s, []⟩ c).1 =
      ⟨(walkNode v ⟨path⟩ s c).1, (recordNode v path s c).calls⟩ := by
    rw [← recordNode_state v path s c]
    rfl
  rw [recordList, walkList_cons, hc, walkList_recorded]
  rfl

end Record

/-! ### The recorded calls -/

/-- The places below `path ++ [n]` are all deeper than `path`, so a cut below a node at `path`
passes over them and stops at the first place that is not deeper. -/
theorem dropWhile_positionsUnder {path : List Node} {n : Node} {rest : List (List Node × Node)}
    (hrest : ∀ q ∈ rest.head?, q.1.length ≤ path.length) (cs : List Node) :
    (positionsUnder (path ++ [n]) cs ++ rest).dropWhile (fun q => path.length < q.1.length) =
      rest := by
  have hdeeper : ∀ q ∈ positionsUnder (path ++ [n]) cs, decide (path.length < q.1.length) := by
    intro q hq
    have := length_le_of_mem_positionsUnder cs hq
    simp only [List.length_append, List.length_singleton] at this
    simp only [decide_eq_true_eq]
    omega
  rw [List.dropWhile_append_of_pos hdeeper]
  cases rest with
  | nil => rfl
  | cons q rest =>
    have hq : q.1.length ≤ path.length := hrest q (by simp)
    rw [List.dropWhile_cons_of_neg (by simpa using hq)]

/-- The places below siblings, followed by places no deeper, start no deeper. -/
theorem head_positionsUnder_append {path : List Node} {rest : List (List Node × Node)}
    (hrest : ∀ q ∈ rest.head?, q.1.length ≤ path.length) :
    ∀ cs, ∀ q ∈ (positionsUnder path cs ++ rest).head?, q.1.length ≤ path.length
  | [] => by simpa using hrest
  | node d _ :: _ => by simp

section Calls

variable {σ : Type} (v : Visitor σ)

mutual

/-- The calls of walking a node keep the ancestor stack and give it back as they found it. -/
theorem stackRun_recordNode (path : List Node) (s : σ) :
    ∀ n, StackRun path (recordNode v path s n).calls path
  | node d cs => by
    rcases he : v.enter s (node d cs) path with ⟨s₁, act⟩
    cases act
    · -- the node is pushed, its children keep the longer stack, and its leave pops it
      rw [recordNode_calls_of_continue v he]
      exact .push ((stackRun_recordList (path ++ [node d cs]) s₁ cs).append (.pop (.nil path)))
    · rw [recordNode_calls_of_skip v he]
      exact .skip (.nil path)

/-- The calls of walking siblings keep the ancestor stack and give it back as they found it. -/
theorem stackRun_recordList (path : List Node) (s : σ) :
    ∀ ns, StackRun path (recordList v path s ns).calls path
  | [] => by
    rw [recordList_calls_nil]
    exact .nil path
  | c :: cs => by
    rw [recordList_calls_cons]
    exact (stackRun_recordNode path s c).append (stackRun_recordList path _ cs)

end

mutual

/-- The places entered in walking a node are its places in pre-order, cut below the skips,
whatever places no deeper come after them. -/
theorem cutBelowSkips_recordNode (path : List Node) (s : σ) (rest : List (List Node × Node))
    (hrest : ∀ q ∈ rest.head?, q.1.length ≤ path.length) (as : List Action) :
    ∀ n, cutBelowSkips (positionsAt path n ++ rest)
        ((entered (recordNode v path s n).calls).map Prod.snd ++ as) =
      (entered (recordNode v path s n).calls).map Prod.fst ++ cutBelowSkips rest as
  | node d cs => by
    rcases he : v.enter s (node d cs) path with ⟨s₁, act⟩
    cases act
    · -- the children's places follow the node's, and the places after them are no deeper
      have hrest' : ∀ q ∈ rest.head?, q.1.length ≤ (path ++ [node d cs]).length := by
        intro q hq
        have := hrest q hq
        simp only [List.length_append, List.length_singleton]
        omega
      rw [recordNode_calls_of_continue v he, positionsAt_node]
      simp only [entered_cons_enter, entered_append, entered_cons_leave, entered_nil,
        List.append_nil, List.map_cons, List.cons_append, cutBelowSkips_continue]
      rw [cutBelowSkips_recordList (path ++ [node d cs]) s₁ rest hrest' as cs]
    · rw [recordNode_calls_of_skip v he, positionsAt_node]
      simp only [entered_cons_enter, entered_cons_leave, entered_nil, List.map_cons,
        List.map_nil, List.cons_append, List.nil_append, cutBelowSkips_skip]
      rw [dropWhile_positionsUnder hrest cs]

/-- The places entered in walking siblings are their places in pre-order, cut below the skips,
whatever places no deeper come after them. -/
theorem cutBelowSkips_recordList (path : List Node) (s : σ) (rest : List (List Node × Node))
    (hrest : ∀ q ∈ rest.head?, q.1.length ≤ path.length) (as : List Action) :
    ∀ ns, cutBelowSkips (positionsUnder path ns ++ rest)
        ((entered (recordList v path s ns).calls).map Prod.snd ++ as) =
      (entered (recordList v path s ns).calls).map Prod.fst ++ cutBelowSkips rest as
  | [] => by simp
  | c :: cs => by
    rw [recordList_calls_cons, positionsUnder_cons, entered_append, List.map_append,
      List.map_append, List.append_assoc, List.append_assoc, List.append_assoc,
      cutBelowSkips_recordNode path s _ (head_positionsUnder_append hrest cs) _ c,
      cutBelowSkips_recordList path _ rest hrest as cs]

end

/-- **The calls of a walk on any visitor.** Recording the visitor runs it unchanged, and the
calls it records keep the ancestor stack from empty to empty, enter exactly the places of the
tree in pre-order with the subtrees below skipped nodes cut out, and never enter the root. -/
theorem walk_calls (s : σ) (root : Node) :
    (record v s root).state = root.walk v s ∧
    StackRun [] (record v s root).calls [] ∧
    (entered (record v s root).calls).map Prod.fst =
      cutBelowSkips root.positions ((entered (record v s root).calls).map Prod.snd) ∧
    ∀ path a, Call.enter root path a ∉ (record v s root).calls := by
  rw [record_eq_recordList]
  have hstate : (recordList v [] s root.children).state = root.walk v s :=
    walkList_simulates v.recorded_simulates {} ⟨s, []⟩ root.children
  have hcut : (entered (recordList v [] s root.children).calls).map Prod.fst =
      cutBelowSkips root.positions
        ((entered (recordList v [] s root.children).calls).map Prod.snd) := by
    have := cutBelowSkips_recordList v [] s [] (by simp) [] root.children
    simpa [positions] using this.symm
  refine ⟨hstate, stackRun_recordList v [] s root.children, hcut, ?_⟩
  -- an entered node sits at one of the places of the tree, and the root is at none of them
  intro path a h
  have hentry : ((path, root), a) ∈ entered (recordList v [] s root.children).calls :=
    List.mem_filterMap.2 ⟨_, h, rfl⟩
  have hmem : (path, root) ∈ (entered (recordList v [] s root.children).calls).map Prod.fst :=
    List.mem_map_of_mem (f := Prod.fst) hentry
  rw [hcut] at hmem
  exact ne_of_mem_positions (mem_of_mem_cutBelowSkips hmem) rfl

end Calls

end Node

end PinAudit
