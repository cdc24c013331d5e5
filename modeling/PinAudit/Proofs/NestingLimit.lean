import PinAudit.Proofs.PrettyReadBack

/-!
# The nesting limit of the value reader

The value reader is given the nesting it still allows (`valueAt fuel depth`). Two facts pin
down what the limit does:

* **It bounds what is read** (`returns_depth`): a value read with `depth` levels allowed is at
  most `depth - 1` deep, so `Json.parse` never gives a value nested 128 deep.
* **It only refuses** (`extends_depth`): whatever is read under a limit is read the same,
  to the same place, under any larger limit.

Together with the pretty read back they decide the pretty text exactly: `Json.parse` reads
`v.pretty 0` as `v.canonical` when that is less than 128 deep, and refuses it otherwise
(`parse_pretty_eq_ok`).

The reader is a state-and-error monad, so both facts are stated for one reader at a time and
carried through `bind`: `Returns P r` says that every value `r` gives satisfies `P`, and
`Extends r r'` that `r'` gives whatever `r` gives. The readers of values, items and members
call each other with one unit of fuel less, so each fact is proved for the three at once by
induction on the fuel.
-/

namespace PinAudit.Json

/-! ### What a reader gives -/

/-- **Every value the reader gives satisfies `P`.** -/
def Returns {α : Type} (P : α → Prop) (r : Reader α) : Prop :=
  ∀ (c : Cursor) (a : α) (c' : Cursor), r c = .ok (a, c') → P a

namespace Returns

variable {α β : Type}

theorem bind {P : β → Prop} {Q : α → Prop} {m : Reader α} {f : α → Reader β}
    (hm : Returns Q m) (hf : ∀ a, Q a → Returns P (f a)) : Returns P (m >>= f) := by
  intro c b c'' h
  obtain ⟨a, c', h₁, h₂⟩ := Reader.bind_ok.1 h
  exact hf a (hm c a c' h₁) c' b c'' h₂

theorem pure {P : α → Prop} {a : α} (h : P a) : Returns P (Pure.pure a) := by
  intro c b c' hr
  simp only [Reader.pure_apply, Except.ok.injEq, Prod.mk.injEq] at hr
  exact hr.1 ▸ h

theorem failNext {P : α → Prop} (p : Problem) : Returns P (Json.failNext p) :=
  fun c a c' h => absurd h (failNext_ne_ok p c c' a)

theorem of_forall {P : α → Prop} {r : Reader α} (h : ∀ a, P a) : Returns P r :=
  fun _ a _ _ => h a

theorem any (r : Reader α) : Returns (fun _ => True) r :=
  fun _ _ _ _ => trivial

theorem mono {P Q : α → Prop} {r : Reader α} (hr : Returns P r) (h : ∀ a, P a → Q a) :
    Returns Q r :=
  fun c a c' hc => h a (hr c a c' hc)

end Returns

/-- A bracket is entered only while more than one level is left. -/
theorem returns_enterLevel (depth : Nat) : Returns (fun _ => 1 < depth) (enterLevel depth) := by
  rw [enterLevel]
  split
  · exact Returns.failNext _
  · exact Returns.of_forall fun _ => by omega

/-- A scalar is never an array or an object. -/
theorem returns_scalar (ch : Char) : Returns (fun v : Value => v.depth = 0) (scalar ch) := by
  unfold scalar
  split
  -- every branch reads, then gives a literal, a number or a string, or fails
  all_goals first
    | exact (Returns.any _).bind fun _ _ => (Returns.any _).bind fun _ _ => Returns.pure rfl
    | exact (Returns.any _).bind fun _ _ => Returns.pure rfl
    | skip
  -- what is left starts with a digit or is not a value
  split
  · exact (Returns.any _).bind fun _ _ => Returns.pure rfl
  · exact Returns.failNext _

theorem itemsDepth_le {n : Nat} : ∀ {vs : List Value}, (∀ x ∈ vs, x.depth ≤ n) →
    Value.itemsDepth vs ≤ n
  | [], _ => Nat.zero_le n
  | x :: xs, h => by
    have hx := h x List.mem_cons_self
    have hxs := itemsDepth_le fun y hy => h y (List.mem_cons_of_mem x hy)
    simp only [Value.itemsDepth]
    omega

theorem membersDepth_le {n : Nat} : ∀ {fs : List (String × Value)}, (∀ p ∈ fs, p.2.depth ≤ n) →
    Value.membersDepth fs ≤ n
  | [], _ => Nat.zero_le n
  | (k, v) :: fs, h => by
    have hv : v.depth ≤ n := h (k, v) List.mem_cons_self
    have hfs := membersDepth_le fun p hp => h p (List.mem_cons_of_mem _ hp)
    simp only [Value.membersDepth]
    omega

/-- Inserting a member keeps the members there, except one of the same key, and adds it. -/
theorem mem_insertSorted {k : String} {v : Value} {p : String × Value} :
    ∀ {acc : List (String × Value)}, p ∈ Value.insertSorted k v acc → p = (k, v) ∨ p ∈ acc
  | [], h => by simpa [Value.insertSorted] using h
  | (j, u) :: acc, h => by
    simp only [Value.insertSorted] at h
    split at h
    · rcases List.mem_cons.1 h with h | h
      · exact Or.inl h
      · exact Or.inr (List.mem_cons_of_mem _ h)
    · split at h
      · rcases List.mem_cons.1 h with h | h
        · exact Or.inl h
        · exact Or.inr h
      · rcases List.mem_cons.1 h with h | h
        · exact Or.inr (h ▸ List.mem_cons_self)
        · rcases mem_insertSorted h with h | h
          · exact Or.inl h
          · exact Or.inr (List.mem_cons_of_mem _ h)

/-- **The nesting limit bounds what is read.** With `depth` levels allowed, a value is read at
most `depth - 1` deep; items and members are read no deeper, given those read before. -/
theorem returns_depth : ∀ fuel : Nat,
    (∀ depth, Returns (fun v : Value => v.depth ≤ depth - 1) (valueAt fuel depth)) ∧
    (∀ depth first (acc : List Value), (∀ x ∈ acc, x.depth ≤ depth - 1) →
      Returns (fun vs : List Value => ∀ x ∈ vs, x.depth ≤ depth - 1)
        (itemsAt fuel depth first acc)) ∧
    (∀ depth first (acc : List (String × Value)), (∀ p ∈ acc, p.2.depth ≤ depth - 1) →
      Returns (fun fs : List (String × Value) => ∀ p ∈ fs, p.2.depth ≤ depth - 1)
        (fieldsAt fuel depth first acc))
  | 0 => by
    refine ⟨fun depth => ?_, fun depth first acc hacc => ?_, fun depth first acc hacc => ?_⟩
    · rw [valueAt]
      exact Returns.failNext _
    · rw [itemsAt]
      exact Returns.pure fun x hx => hacc x (List.mem_reverse.1 hx)
    · rw [fieldsAt]
      exact Returns.pure hacc
  | fuel + 1 => by
    obtain ⟨hvalue, hitems, hfields⟩ := returns_depth fuel
    refine ⟨fun depth => ?_, fun depth first acc hacc => ?_, fun depth first acc hacc => ?_⟩
    · rw [valueAt]
      refine (Returns.any _).bind
        fun o _ => ?_
      split
      · exact Returns.failNext _
      · -- an array: its items are read one level further in
        refine Returns.bind (returns_enterLevel depth) fun _ hd => ?_
        refine Returns.bind (hitems (depth - 1) true [] (by simp)) fun items hd' => ?_
        refine (Returns.any _).bind
          fun _ _ => Returns.pure ?_
        have := itemsDepth_le hd'
        simp only [Value.depth]
        omega
      · refine Returns.bind (returns_enterLevel depth) fun _ hd => ?_
        refine Returns.bind (hfields (depth - 1) true [] (by simp)) fun fs hd' => ?_
        refine (Returns.any _).bind
          fun _ _ => Returns.pure ?_
        have := membersDepth_le hd'
        simp only [Value.depth]
        omega
      · exact (returns_scalar _).mono fun v hv => by omega
    · rw [itemsAt]
      refine (Returns.any _).bind
        fun more _ => ?_
      split
      · refine Returns.bind (hvalue depth) fun v hv => hitems depth false (v :: acc) ?_
        intro x hx
        rcases List.mem_cons.1 hx with rfl | hx
        · exact hv
        · exact hacc x hx
      · exact Returns.pure fun x hx => hacc x (List.mem_reverse.1 hx)
    · rw [fieldsAt]
      refine (Returns.any _).bind
        fun key _ => ?_
      split
      · exact Returns.pure hacc
      · refine (Returns.any _).bind
          fun _ _ => Returns.bind (hvalue depth) fun v hv => hfields depth false _ ?_
        intro p hp
        rcases mem_insertSorted hp with rfl | hp
        · exact hv
        · exact hacc p hp

/-! ### The limit only refuses -/

/-- **`r'` gives whatever `r` gives**, and leaves the cursor where `r` does. -/
def Extends {α : Type} (r r' : Reader α) : Prop :=
  ∀ (c : Cursor) (a : α) (c' : Cursor), r c = .ok (a, c') → r' c = .ok (a, c')

namespace Extends

variable {α β : Type}

theorem refl (r : Reader α) : Extends r r :=
  fun _ _ _ h => h

theorem bind {m m' : Reader α} {f f' : α → Reader β} (hm : Extends m m')
    (hf : ∀ a, Extends (f a) (f' a)) : Extends (m >>= f) (m' >>= f') := by
  intro c b c'' h
  obtain ⟨a, c', h₁, h₂⟩ := Reader.bind_ok.1 h
  rw [Reader.bind_of_ok (hm c a c' h₁)]
  exact hf a c' b c'' h₂

end Extends

theorem extends_enterLevel {depth depth' : Nat} (h : depth ≤ depth') :
    Extends (enterLevel depth) (enterLevel depth') := by
  intro c a c' hc
  unfold enterLevel at hc ⊢
  by_cases hd : depth ≤ 1
  · rw [if_pos hd] at hc
    exact absurd hc (failNext_ne_ok _ _ _ _)
  · rw [if_neg hd] at hc
    rw [if_neg (by omega)]
    exact hc

/-- **The nesting limit only refuses.** What the readers read under a limit they read the same,
to the same place, under any larger limit. -/
theorem extends_depth : ∀ fuel : Nat,
    (∀ depth depth', depth ≤ depth' → Extends (valueAt fuel depth) (valueAt fuel depth')) ∧
    (∀ depth depth' first (acc : List Value), depth ≤ depth' →
      Extends (itemsAt fuel depth first acc) (itemsAt fuel depth' first acc)) ∧
    (∀ depth depth' first (acc : List (String × Value)), depth ≤ depth' →
      Extends (fieldsAt fuel depth first acc) (fieldsAt fuel depth' first acc))
  | 0 => by
    refine ⟨fun depth depth' _ => ?_, fun depth depth' first acc _ => ?_,
      fun depth depth' first acc _ => ?_⟩
    · rw [valueAt, valueAt]
      exact Extends.refl _
    · rw [itemsAt, itemsAt]
      exact Extends.refl _
    · rw [fieldsAt, fieldsAt]
      exact Extends.refl _
  | fuel + 1 => by
    obtain ⟨hvalue, hitems, hfields⟩ := extends_depth fuel
    refine ⟨fun depth depth' h => ?_, fun depth depth' first acc h => ?_,
      fun depth depth' first acc h => ?_⟩
    · rw [valueAt, valueAt]
      refine Extends.bind (Extends.refl _) fun o => ?_
      split
      · exact Extends.refl _
      · -- an array: only the bracket and the items see the limit
        exact Extends.bind (extends_enterLevel h) fun _ =>
          Extends.bind (hitems _ _ true [] (by omega)) fun _ => Extends.refl _
      · exact Extends.bind (extends_enterLevel h) fun _ =>
          Extends.bind (hfields _ _ true [] (by omega)) fun _ => Extends.refl _
      · exact Extends.refl _
    · rw [itemsAt, itemsAt]
      refine Extends.bind (Extends.refl _) fun more => ?_
      cases more
      · exact Extends.refl _
      · exact Extends.bind (hvalue depth depth' h) fun v => hitems depth depth' false _ h
    · rw [fieldsAt, fieldsAt]
      refine Extends.bind (Extends.refl _) fun key => ?_
      cases key with
      | none => exact Extends.refl _
      | some k =>
        exact Extends.bind (Extends.refl _) fun _ =>
          Extends.bind (hvalue depth depth' h) fun v => hfields depth depth' false _ h

/-! ### The pretty text decided -/

/-- A text read as a value is read so by the value reader from its start, with the fuel and
the nesting of `Json.parse`. -/
theorem valueAt_of_parse {text : String} {w : Value} (h : parse text = .ok w) :
    ∃ c', valueAt (4 * (text.toList.length + 2)) nestingLimit (Cursor.start text) = .ok (w, c') := by
  unfold parse at h
  simp only [StateT.run, bind, Except.bind] at h
  split at h
  · cases h
  · rename_i p hread
    obtain ⟨v, c''⟩ := p
    simp only [pure, Except.pure, Except.ok.injEq] at h
    subst h
    obtain ⟨a, c', hvalue, hend⟩ := Reader.bind_ok.1 hread
    -- after the value only the end of the text is accepted, and it keeps the value
    obtain ⟨o, c₁, -, hrest⟩ := Reader.bind_ok.1 hend
    cases o with
    | some x => exact absurd hrest (failNext_ne_ok _ _ _ _)
    | none =>
      cases hrest
      exact ⟨c', hvalue⟩

/-- **The reader refuses the 128th level**: no text is read as a value nested 128 deep. -/
theorem depth_lt_of_parse {text : String} {w : Value} (h : parse text = .ok w) :
    w.depth < nestingLimit := by
  obtain ⟨c', hread⟩ := valueAt_of_parse h
  have hle : w.depth ≤ nestingLimit - 1 := (returns_depth _).1 nestingLimit _ w c' hread
  have hlimit : nestingLimit = 128 := rfl
  omega

/-- **A pretty text read as a value is read as the value a reader holds for it**, which is
then less than 128 deep: the reader never gives anything else for a value's pretty text. -/
theorem parse_pretty_eq_ok {v w : Value} (hv : v.Integral) (h : parse (v.pretty 0) = .ok w) :
    w = v.canonical ∧ w.depth < nestingLimit := by
  obtain ⟨c', hread⟩ := valueAt_of_parse h
  have hshallow := depth_lt_of_parse h
  -- the same text under a limit the value fits in
  have hwide := (extends_depth _).1 nestingLimit (max nestingLimit (v.depth + 1))
    (Nat.le_max_left _ _) _ w c' hread
  obtain ⟨c'', hpretty, -⟩ := Value.valueAt_pretty v (4 * ((v.pretty 0).toList.length + 2))
    (max nestingLimit (v.depth + 1)) 0 hv
    (by omega) (by omega) (Cursor.start (v.pretty 0)) [] (fun y hy => by cases hy)
    (List.append_nil _).symm
  rw [hwide, Except.ok.injEq, Prod.mk.injEq] at hpretty
  refine ⟨hpretty.1, ?_⟩
  have hlimit : nestingLimit = 128 := rfl
  omega

end PinAudit.Json
