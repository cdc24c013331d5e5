import PinAudit.Proofs.ReaderScan

/-!
# How deep the tool's reader reads a tree document

Reading a tree document checks the bracket nesting of its text first: at most
`Document.maxNesting`, twice `Document.maxLevels`. The deserializer that follows is a separate
program, so the bound on the tree it gives has to be carried from one to the other. For the
reader the tool runs, `Document.read`, it is carried by the words the reader goes over
(`Json.Balances`): an entry goes over a balanced word whose height is at least twice its levels,
less one, since each level is an object and the array of its children (`entry_ok`), and the
text starts with that word (`Document.read_balanced`). Building the nodes keeps the levels
(`levels_convert`), whatever the deserializer.
-/

namespace PinAudit

namespace Node

mutual

/-- **The number of levels** of a tree, the root counted as level 1. -/
def levels : Node → Nat
  | node _ cs => levelsOf cs + 1

/-- The most levels among a list of subtrees. -/
def levelsOf : List Node → Nat
  | [] => 0
  | c :: cs => max c.levels (levelsOf cs)

end

@[simp] theorem levels_node (d : Dependency) (cs : List Node) :
    (node d cs).levels = levelsOf cs + 1 := by
  rw [levels]

@[simp] theorem levelsOf_nil : levelsOf [] = 0 := by
  rw [levelsOf]

@[simp] theorem levelsOf_cons (c : Node) (cs : List Node) :
    levelsOf (c :: cs) = max c.levels (levelsOf cs) := by
  rw [levelsOf]

end Node

namespace Document

/-- The child entries of an entry. -/
def Entry.children : Entry → List Entry
  | .mk _ _ _ _ _ _ _ cs => cs

mutual

/-- The number of levels of an entry, as `Node.levels`. -/
def Entry.levels : Entry → Nat
  | .mk _ _ _ _ _ _ _ cs => Entry.levelsOf cs + 1

/-- The most levels among a list of entries. -/
def Entry.levelsOf : List Entry → Nat
  | [] => 0
  | e :: es => max e.levels (Entry.levelsOf es)

end

@[simp] theorem Entry.children_mk (g a v : String) (t c s : Option String) (o : Bool)
    (cs : List Entry) : (Entry.mk g a v t c s o cs).children = cs := rfl

theorem Entry.levels_eq (e : Entry) : e.levels = Entry.levelsOf e.children + 1 := by
  cases e
  rw [Entry.levels, Entry.children_mk]

@[simp] theorem Entry.levelsOf_nil : Entry.levelsOf [] = 0 := by
  rw [Entry.levelsOf]

@[simp] theorem Entry.levelsOf_cons (e : Entry) (es : List Entry) :
    Entry.levelsOf (e :: es) = max e.levels (Entry.levelsOf es) := by
  rw [Entry.levelsOf]

theorem Entry.levelsOf_le {es : List Entry} {n : Nat} (h : ∀ e ∈ es, e.levels ≤ n) :
    Entry.levelsOf es ≤ n := by
  induction es with
  | nil => simp
  | cons e es ih =>
    rw [Entry.levelsOf_cons]
    exact Nat.max_le.2
      ⟨h e List.mem_cons_self, ih fun e' he' => h e' (List.mem_cons_of_mem _ he')⟩

/-! ### Building keeps the levels -/

mutual

theorem levels_convert : ∀ {root : Bool} {e : Entry} {log : List LogEvent} {n : Node},
    e.convert root = (log, .ok n) → n.levels = e.levels
  | root, .mk g a v t c s o cs, log, n, h => by
    rw [Entry.convert] at h
    generalize hcs : Entry.convertAll cs = built at h
    obtain ⟨log', built⟩ := built
    -- a refused entry or a refused child gives no node
    cases built with
    | error m => split at h <;> cases h
    | ok nodes =>
      split at h
      · cases h
      · cases h
        rw [Node.levels_node, Entry.levels, levelsOf_convertAll hcs]

theorem levelsOf_convertAll : ∀ {es : List Entry} {log : List LogEvent} {ns : List Node},
    Entry.convertAll es = (log, .ok ns) → Node.levelsOf ns = Entry.levelsOf es
  | [], log, ns, h => by
    rw [Entry.convertAll] at h
    cases h
    simp
  | e :: es, log, ns, h => by
    rw [Entry.convertAll] at h
    split at h
    · cases h
    · rename_i log₁ n hn
      generalize hrest : Entry.convertAll es = rest at h
      obtain ⟨log₂, rest⟩ := rest
      cases rest with
      | error m => cases h
      | ok ns' =>
        cases h
        rw [Node.levelsOf_cons, Entry.levelsOf_cons, levels_convert hn, levelsOf_convertAll hrest]

end

/-! ### What a read goes over -/

open Json

theorem Fields.children_finish {f : Fields} {e : Entry} (h : f.finish = .ok e) :
    e.children = f.children.getD [] := by
  unfold Fields.finish at h
  split at h <;> cases h
  rfl

section Fields

variable {α : Type} {name : String} {seen : Bool} {read : Reader α}
  {next : Except String α → Reader (Except String Entry)} {H : Nat}

/-- A field of an object entry read once, and the fields after it: the children's levels stay
within a bound `H` known before it and the height of what was read, the value's measure
`m` included. A repeated field is an error, which `next` passes on. -/
theorem field_ok {m : α → Nat}
    (hread : ∀ {c x c'}, read c = .ok (x, c') → ∃ h, Balances c c' h ∧ m x ≤ h)
    (herr : ∀ m c, next (.error m) c = .ok (.error m, c))
    (hok : ∀ x {c r c'}, next (.ok x) c = .ok (r, c') →
      ∃ h, Balances c c' h ∧
        ∀ e, r = .ok e → 2 * Entry.levelsOf e.children ≤ max (max H (m x)) h)
    {c c' : Cursor} {r : Except String Entry} (h : (once name seen read >>= next) c = .ok (r, c')) :
    ∃ h, Balances c c' h ∧ ∀ e, r = .ok e → 2 * Entry.levelsOf e.children ≤ max H h := by
  rw [Reader.bind_ok] at h
  obtain ⟨o, c₁, ho, h⟩ := h
  rw [once] at ho
  cases seen with
  | true =>
    -- a repeated field: nothing more is read, and the error is passed on
    simp only [if_true, Reader.pure_apply, Except.ok.injEq, Prod.mk.injEq] at ho
    obtain ⟨rfl, rfl⟩ := ho
    rw [herr] at h
    simp only [Except.ok.injEq, Prod.mk.injEq] at h
    obtain ⟨rfl, rfl⟩ := h
    exact ⟨0, Balances.refl c, by simp⟩
  | false =>
    -- the colon, the value, then the fields after it
    simp only [Bool.false_eq_true, if_false] at ho
    rw [Reader.bind_ok] at ho
    obtain ⟨u, c₂, hc, ho⟩ := ho
    rw [Reader.bind_ok] at ho
    obtain ⟨x, c₃, hx, ho⟩ := ho
    simp only [Reader.pure_apply, Except.ok.injEq, Prod.mk.injEq] at ho
    obtain ⟨rfl, rfl⟩ := ho
    obtain ⟨h₁, hb₁, hm₁⟩ := hread hx
    obtain ⟨h₂, hb₂, hm₂⟩ := hok x h
    refine ⟨max h₁ h₂, ?_, fun e he => ?_⟩
    · simpa using (Balances.of_plains (colon_ok hc)).trans (hb₁.trans hb₂)
    · have := hm₂ e he
      omega

/-- A field whose value is a string or a boolean leaves the bound as it was. -/
theorem scalarField_ok (hread : ∀ {c x c'}, read c = .ok (x, c') → Balances c c' 0)
    (herr : ∀ m c, next (.error m) c = .ok (.error m, c))
    (hok : ∀ x {c r c'}, next (.ok x) c = .ok (r, c') →
      ∃ h, Balances c c' h ∧ ∀ e, r = .ok e → 2 * Entry.levelsOf e.children ≤ max H h)
    {c c' : Cursor} {r : Except String Entry} (h : (once name seen read >>= next) c = .ok (r, c')) :
    ∃ h, Balances c c' h ∧ ∀ e, r = .ok e → 2 * Entry.levelsOf e.children ≤ max H h := by
  refine field_ok (m := fun _ => 0) (fun hx => ⟨0, hread hx, Nat.le_refl 0⟩) herr ?_ h
  intro x c r c' hx
  obtain ⟨h, hb, hm⟩ := hok x hx
  exact ⟨h, hb, fun e he => by simpa using hm e he⟩

end Fields

/-- The readers of strings and booleans go over words of height zero. -/
theorem readBool_balances {c c' : Cursor} {b : Bool} (h : readBool c = .ok (b, c')) :
    Balances c c' 0 :=
  Balances.of_plains (readBool_ok h)

/-- A field of an array entry that is a string or a boolean. -/
theorem scalarItem_ok {α : Type} {read : Reader α} {first : Bool}
    (hread : ∀ {c x c'}, read c = .ok (x, c') → Balances c c' 0) {c c' : Cursor} {o : Option α}
    (h : nextField first read c = .ok (o, c')) : ∃ h, Balances c c' h :=
  (nextField_ok (m := fun _ => 0) (fun hx => ⟨0, hread hx, Nat.le_refl 0⟩) h).imp
    fun _ hb => hb.1

mutual

/-- **An entry goes over a balanced word** at least twice its levels high, less one: each
level adds an object and the array of its children. -/
theorem entry_ok : ∀ {fuel : Nat} {c c' : Cursor} {e : Entry}, entry fuel c = .ok (e, c') →
    ∃ h, Balances c c' h ∧ 2 * e.levels ≤ h + 1
  | 0, c, c', e, h => by simp [entry] at h
  | fuel + 1, c, c', e, h => by
    rw [entry] at h
    have hmap : ∀ {c r c'}, entryFields fuel {} true c = .ok (r, c') →
        ∃ h, Balances c c' h ∧ ∀ e, r = .ok e → 2 * Entry.levelsOf e.children ≤ h := by
      intro c r c' hf
      obtain ⟨h, hb, hm⟩ := entryFields_ok hf
      exact ⟨h, hb, fun e he => by simpa using hm e he⟩
    obtain ⟨h₁, hb, hm⟩ := readStruct_ok (fun hx => entryItems_ok hx) hmap h
    refine ⟨h₁, hb, ?_⟩
    rw [Entry.levels_eq]
    omega

/-- The fields of an array entry: the children's levels stay within what they went over. -/
theorem entryItems_ok : ∀ {fuel : Nat} {c c' : Cursor} {r : Except String Entry},
    entryItems fuel c = .ok (r, c') →
    ∃ h, Balances c c' h ∧ ∀ e, r = .ok e → 2 * Entry.levelsOf e.children ≤ h
  | 0, c, c', r, h => by simp [entryItems] at h
  | fuel + 1, c, c', r, h => by
    -- group, artifact and version come first; the entry is an error when one of them is missing
    rw [entryItems, Reader.bind_ok] at h
    obtain ⟨g, c₁, hg, h⟩ := h
    obtain ⟨h₁, b₁⟩ := scalarItem_ok readString_ok hg
    cases g with
    | none =>
      simp only [Reader.pure_apply, Except.ok.injEq, Prod.mk.injEq] at h
      obtain ⟨rfl, rfl⟩ := h
      exact ⟨h₁, b₁, by simp⟩
    | some g =>
    simp only at h
    rw [Reader.bind_ok] at h
    obtain ⟨a, c₂, ha, h⟩ := h
    obtain ⟨h₂, b₂⟩ := scalarItem_ok readString_ok ha
    cases a with
    | none =>
      simp only [Reader.pure_apply, Except.ok.injEq, Prod.mk.injEq] at h
      obtain ⟨rfl, rfl⟩ := h
      exact ⟨_, b₁.trans b₂, by simp⟩
    | some a =>
    simp only at h
    rw [Reader.bind_ok] at h
    obtain ⟨v, c₃, hv, h⟩ := h
    obtain ⟨h₃, b₃⟩ := scalarItem_ok readString_ok hv
    cases v with
    | none =>
      simp only [Reader.pure_apply, Except.ok.injEq, Prod.mk.injEq] at h
      obtain ⟨rfl, rfl⟩ := h
      exact ⟨_, b₁.trans (b₂.trans b₃), by simp⟩
    | some v =>
    simp only at h
    -- the optional fields, the last one the children
    rw [Reader.bind_ok] at h
    obtain ⟨t, c₄, ht, h⟩ := h
    obtain ⟨h₄, b₄⟩ := scalarItem_ok readOptString_ok ht
    rw [Reader.bind_ok] at h
    obtain ⟨cl, c₅, hcl, h⟩ := h
    obtain ⟨h₅, b₅⟩ := scalarItem_ok readOptString_ok hcl
    rw [Reader.bind_ok] at h
    obtain ⟨s, c₆, hs, h⟩ := h
    obtain ⟨h₆, b₆⟩ := scalarItem_ok readOptString_ok hs
    rw [Reader.bind_ok] at h
    obtain ⟨o, c₇, ho, h⟩ := h
    obtain ⟨h₇, b₇⟩ := scalarItem_ok readBool_balances ho
    rw [Reader.bind_ok] at h
    obtain ⟨cs, c₈, hcs, h⟩ := h
    obtain ⟨h₈, b₈, hm₈⟩ := nextField_ok (m := fun cs => 2 * Entry.levelsOf cs)
      (fun hx => children_ok hx) hcs
    simp only [Reader.pure_apply, Except.ok.injEq, Prod.mk.injEq] at h
    obtain ⟨rfl, rfl⟩ := h
    -- absent children are no children
    have hbound : 2 * Entry.levelsOf (cs.getD []) ≤ h₈ := by
      cases cs with
      | none => simp
      | some cs => exact hm₈ cs rfl
    obtain ⟨h, hb, hm⟩ := Balances.trans_le
      (b₁.trans (b₂.trans (b₃.trans (b₄.trans (b₅.trans (b₆.trans b₇)))))) b₈ hbound
    exact ⟨h, hb, fun e he => by cases he; simpa using hm⟩

/-- The fields of an object entry: the children's levels stay within the bound of the fields
read before and what the rest went over. -/
theorem entryFields_ok : ∀ {fuel : Nat} {f : Fields} {first : Bool} {c c' : Cursor}
    {r : Except String Entry}, entryFields fuel f first c = .ok (r, c') →
    ∃ h, Balances c c' h ∧ ∀ e, r = .ok e →
      2 * Entry.levelsOf e.children ≤ max (2 * Entry.levelsOf (f.children.getD [])) h
  | 0, f, first, c, c', r, h => by simp [entryFields] at h
  | fuel + 1, f, first, c, c', r, h => by
    rw [entryFields, Reader.bind_ok] at h
    obtain ⟨k, c₁, hk, h⟩ := h
    -- the key is balanced with height zero, so what follows it sets the bound
    have h₀ := nextKey_ok hk
    suffices hrest : ∃ h, Balances c₁ c' h ∧ ∀ e, r = .ok e →
        2 * Entry.levelsOf e.children ≤ max (2 * Entry.levelsOf (f.children.getD [])) h by
      obtain ⟨h₁, hb, hm⟩ := hrest
      exact ⟨h₁, by simpa using h₀.trans hb, hm⟩
    -- every field but the children leaves the children read so far as they were
    have hnext : ∀ {f' : Fields} {c r c'}, entryFields fuel f' false c = .ok (r, c') →
        f'.children = f.children → ∃ h, Balances c c' h ∧ ∀ e, r = .ok e →
          2 * Entry.levelsOf e.children ≤ max (2 * Entry.levelsOf (f.children.getD [])) h := by
      intro f' c r c' hx hf'
      rw [← hf']
      exact entryFields_ok hx
    cases k with
    | none =>
      -- no key left: the entry is built from the fields read so far
      simp only [Reader.pure_apply, Except.ok.injEq, Prod.mk.injEq] at h
      obtain ⟨rfl, rfl⟩ := h
      exact ⟨0, Balances.refl _, fun e he => by rw [Fields.children_finish he]; omega⟩
    | some key =>
    by_cases k₁ : key = "groupId"
    · subst k₁
      simp only at h
      refine scalarField_ok readString_ok (fun _ _ => rfl) ?_ h
      exact fun _ _ _ _ hx => hnext hx rfl
    by_cases k₂ : key = "artifactId"
    · subst k₂
      simp only at h
      refine scalarField_ok readString_ok (fun _ _ => rfl) ?_ h
      exact fun _ _ _ _ hx => hnext hx rfl
    by_cases k₃ : key = "version"
    · subst k₃
      simp only at h
      refine scalarField_ok readString_ok (fun _ _ => rfl) ?_ h
      exact fun _ _ _ _ hx => hnext hx rfl
    by_cases k₄ : key = "type"
    · subst k₄
      simp only at h
      refine scalarField_ok readOptString_ok (fun _ _ => rfl) ?_ h
      exact fun _ _ _ _ hx => hnext hx rfl
    by_cases k₅ : key = "classifier"
    · subst k₅
      simp only at h
      refine scalarField_ok readOptString_ok (fun _ _ => rfl) ?_ h
      exact fun _ _ _ _ hx => hnext hx rfl
    by_cases k₆ : key = "scope"
    · subst k₆
      simp only at h
      refine scalarField_ok readOptString_ok (fun _ _ => rfl) ?_ h
      exact fun _ _ _ _ hx => hnext hx rfl
    by_cases k₇ : key = "optional"
    · subst k₇
      simp only at h
      refine scalarField_ok readBool_balances (fun _ _ => rfl) ?_ h
      exact fun _ _ _ _ hx => hnext hx rfl
    by_cases k₈ : key = "children"
    · subst k₈
      simp only at h
      refine field_ok (m := fun cs => 2 * Entry.levelsOf cs) (fun hx => children_ok hx)
        (fun _ _ => rfl) ?_ h
      intro cs c r c' hx
      obtain ⟨h, hb, hm⟩ := entryFields_ok hx
      exact ⟨h, hb, fun e he => by have := hm e he; simp at this; omega⟩
    -- an unknown field is skipped
    simp only at h
    rw [Reader.bind_ok] at h
    obtain ⟨u, c₂, hc, h⟩ := h
    rw [get_bind, Reader.bind_ok] at h
    obtain ⟨u', c₃, hs, h⟩ := h
    obtain ⟨h₃, hb₃⟩ := skipValue_ok hs
    obtain ⟨h₄, hb₄, hm₄⟩ := hnext h rfl
    refine ⟨max h₃ h₄, ?_, fun e he => ?_⟩
    · simpa using (Balances.of_plains (colon_ok hc)).trans (hb₃.trans hb₄)
    · have := hm₄ e he
      omega

/-- **The children of an entry**: twice their levels stay within the height of the array. -/
theorem children_ok : ∀ {fuel : Nat} {c c' : Cursor} {cs : List Entry},
    children fuel c = .ok (cs, c') → ∃ h, Balances c c' h ∧ 2 * Entry.levelsOf cs ≤ h
  | 0, c, c', cs, h => by simp [children] at h
  | fuel + 1, c, c', cs, h => by
    rw [children, skipWs_bind] at h
    have h₀ := plains_skipWsFrom c
    generalize skipWsFrom c.rest c.line c.col = c₁ at h h₀
    cases hr : c₁.rest with
    | nil => simp [hr] at h
    | cons y t =>
      simp only [hr, List.head?_cons] at h
      by_cases hy : y = '['
      · subst hy
        simp only [bump_bind, get_bind] at h
        rw [Reader.bind_ok] at h
        obtain ⟨items, c₂, hi, h⟩ := h
        rw [Reader.bind_ok] at h
        obtain ⟨u, c₃, hc, h⟩ := h
        simp only [Reader.pure_apply, Except.ok.injEq, Prod.mk.injEq] at h
        obtain ⟨hcs, rfl⟩ := h
        subst hcs
        -- the items, then the closing bracket; the bracket pair adds one to their height
        have hitem : ∀ {c e c'}, entry fuel c = .ok (e, c') →
            ∃ h, Balances c c' h ∧ 2 * e.levels - 1 ≤ h := by
          intro c e c' he
          obtain ⟨h, hb, hm⟩ := entry_ok he
          exact ⟨h, hb, by omega⟩
        obtain ⟨h₁, hb₁, hm₁⟩ := readItems_ok hitem hi
        obtain ⟨c₄, hp, he₄, hc₄⟩ := closeArray_ok hc
        have hin : Balances c₁.bump c₄ h₁ := by
          simpa using hb₁.trans (Balances.of_plains hp)
        refine ⟨h₁ + 1, ?_, ?_⟩
        · simpa using (Balances.of_plains h₀).trans
            (hin.wrap (Or.inr rfl) (Or.inr rfl) (by simp [hr]) he₄ c₃ hc₄)
        · have hle : Entry.levelsOf items ≤ (h₁ + 1) / 2 := by
            refine Entry.levelsOf_le fun e he => ?_
            have := hm₁ e he
            simp at this
            omega
          omega
      · simp at h
        exact absurd h (refuse_ne_ok _ _ _ _)

end

/-- **A document read goes over a balanced word** at the start of its text, at least twice
the entry's levels high, less one. -/
theorem read_balanced {text : String} {e : Entry} (h : read text = .ok e) :
    ∃ h w rest, text.toList = w ++ rest ∧ Balanced w h ∧ 2 * e.levels ≤ h + 1 := by
  unfold read at h
  dsimp only [StateT.run] at h
  simp only [bind, Except.bind] at h
  split at h
  · cases h
  rename_i p hrun
  obtain ⟨e', c'⟩ := p
  cases h
  change ((_ : Reader Entry) >>= _) _ = _ at hrun
  rw [Reader.bind_ok] at hrun
  obtain ⟨e'', c₁, he, hrest⟩ := hrun
  change ((_ : Reader (Option Char)) >>= _) _ = _ at hrest
  rw [skipWs_bind] at hrest
  -- only whitespace may follow the entry, so the entry read is the document's
  have he' : e' = e'' := by
    generalize skipWsFrom c₁.rest c₁.line c₁.col = c₂ at hrest
    cases hr : c₂.rest with
    | nil =>
      simp only [hr, List.head?_nil, Reader.pure_apply, Except.ok.injEq, Prod.mk.injEq] at hrest
      exact hrest.1.symm
    | cons y t => simp [hr] at hrest
  subst he'
  obtain ⟨h₁, ⟨w, hw, bw⟩, hle⟩ := entry_ok he
  exact ⟨h₁, w, c₁.rest, hw, bw, hle⟩

end Document

end PinAudit
