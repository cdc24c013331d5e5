import Mathlib.Data.String.Basic
import PinAudit.Json.Typed
import PinAudit.Proofs.NestingLimit

/-!
# Records read from the objects a reader holds

A record written as an object is read back from the value a reader holds for it
(`Value.canonical`): the members sorted by key, a repeated key keeping its last value. When the
object written repeats no key, the reader's object has the same members, so a key is looked up
there as in the object written (`lookup_canonicalMembers`) and every member read there is one
written (`mem_canonicalMembers`).

Reading a record from an object (`Value.readRecord`) first checks the members in key order
(`checkEntries_ok`), then takes the fields one by one (`field_entries`, `field_optional`,
`field_fallback`); from an object the fields never change what is left to read, so a record
is read when each of its fields is (`readRecord_obj`).

A payload kept inside a record is read back as it was when its objects already have their
keys in increasing order, as a reader holds them (`Value.KeysSorted`,
`canonical_of_keysSorted`).
-/

namespace PinAudit.Json

namespace Value

/-! ### The members of the object a reader holds -/

theorem lookup_cons_ite (k k' : String) (v : Value) (l : List (String × Value)) :
    ((k, v) :: l).lookup k' = if k' = k then some v else l.lookup k' := by
  rw [List.lookup_cons]
  by_cases h : k' = k
  · rw [if_pos h, h, beq_self_eq_true]
  · rw [if_neg h, beq_eq_false_iff_ne.2 h]

theorem lookup_insertSorted (k : String) (v : Value) (k' : String) (acc : List (String × Value)) :
    (insertSorted k v acc).lookup k' = if k' = k then some v else acc.lookup k' := by
  induction acc with
  | nil => rw [insertSorted, lookup_cons_ite]
  | cons p acc ih =>
    obtain ⟨j, u⟩ := p
    simp only [insertSorted]
    split
    · -- the key was there: its value is replaced
      rename_i hkj
      obtain rfl : k = j := beq_iff_eq.1 hkj
      simp only [lookup_cons_ite]
      split <;> rfl
    · split
      · simp only [lookup_cons_ite]
      · rename_i hkj _
        have hne : k ≠ j := fun h => hkj (beq_iff_eq.2 h)
        simp only [lookup_cons_ite, ih]
        by_cases h : k' = k
        · subst h
          simp [hne]
        · simp [h]

/-- **A key of an object without repeated keys is looked up in the reader's object as in the
object written**, its value as the reader holds it. -/
theorem lookup_canonicalMembers (k : String) :
    ∀ (acc fs : List (String × Value)), (fs.map Prod.fst).Nodup →
      (canonicalMembers acc fs).lookup k =
        if k ∈ fs.map Prod.fst then (fs.lookup k).map canonical else acc.lookup k
  | acc, [], _ => by simp [canonicalMembers]
  | acc, (j, v) :: fs, hnd => by
    simp only [List.map_cons, List.nodup_cons] at hnd
    simp only [canonicalMembers]
    rw [lookup_canonicalMembers k _ fs hnd.2, lookup_insertSorted]
    by_cases hk : k ∈ fs.map Prod.fst
    · -- a later key: it is not this one
      have hkj : k ≠ j := fun h => hnd.1 (h ▸ hk)
      simp [hk, hkj, lookup_cons_ite]
    · by_cases hkj : k = j
      · subst hkj
        simp [hk]
      · simp [hk, hkj]

theorem lookup_canonical_obj {fs : List (String × Value)} (hnd : (fs.map Prod.fst).Nodup)
    (k : String) : (canonicalMembers [] fs).lookup k = (fs.lookup k).map canonical := by
  rw [lookup_canonicalMembers k [] fs hnd]
  split
  · rfl
  · rename_i hk
    have hnone : fs.lookup k = none := by
      rw [List.lookup_eq_none_iff]
      intro p hp
      simp only [bne_iff_ne, ne_eq]
      intro h
      rw [h] at hk
      exact hk (List.mem_map_of_mem hp)
    simp [hnone]

/-- Every member of the reader's object is one written before it, or one written, its value as
the reader holds it. -/
theorem mem_canonicalMembers {p : String × Value} :
    ∀ {acc fs : List (String × Value)}, p ∈ canonicalMembers acc fs →
      p ∈ acc ∨ ∃ v, (p.1, v) ∈ fs ∧ p.2 = v.canonical
  | acc, [], h => Or.inl h
  | acc, (k, v) :: fs, h => by
    simp only [canonicalMembers] at h
    rcases mem_canonicalMembers h with h | ⟨w, hw, hpw⟩
    · rcases mem_insertSorted h with rfl | h
      · exact Or.inr ⟨v, List.mem_cons_self, rfl⟩
      · exact Or.inl h
    · exact Or.inr ⟨w, List.mem_cons_of_mem _ hw, hpw⟩

end Value

/-! ### Records from objects -/

/-- Reading a member's check in key order succeeds when every member's value passes its
field's check. -/
theorem checkEntries_ok (shape : Shape) : ∀ kvs : List (String × Value),
    (∀ p ∈ kvs, ∀ check, shape.fields.lookup p.1 = some check → check p.2 = .ok ()) →
    checkEntries shape kvs = .ok ()
  | [], _ => rfl
  | (k, v) :: kvs, h => by
    have hrest := checkEntries_ok shape kvs fun p hp => h p (List.mem_cons_of_mem _ hp)
    simp only [checkEntries]
    cases hl : shape.fields.lookup k with
    | none => exact hrest
    | some check =>
      simp only [h (k, v) List.mem_cons_self check hl]
      exact hrest

theorem FieldReader.read_bind {β : Type} (f : Shape → FieldReader β) (shape : Shape) (s : FieldSource) :
    ((read : FieldReader Shape) >>= f) shape s = f shape shape s := rfl

theorem FieldReader.get_bind {β : Type} (f : FieldSource → FieldReader β) (shape : Shape) (s : FieldSource) :
    ((get : FieldReader FieldSource) >>= f) shape s = f s shape s := rfl

theorem FieldReader.liftM_apply {α : Type} (e : Except String α) (shape : Shape) (s : FieldSource) :
    (liftM e : FieldReader α) shape s = (fun a => (a, s)) <$> e := by
  cases e <;> rfl

theorem FieldReader.bind_of_ok {α β : Type} {x : FieldReader α} {f : α → FieldReader β}
    {shape : Shape} {s s' : FieldSource} {a : α} (h : x shape s = .ok (a, s')) :
    (x >>= f) shape s = f a shape s' := by
  show StateT.bind (x shape) (fun a => f a shape) s = _
  simp only [StateT.bind, h]
  rfl

section Fields

variable {α : Type} (name : String) (decode : Value → Except String α) (shape : Shape)
  {kvs : List (String × Value)}

/-- **A field present in an object** reads as its value does, and leaves the object as it is. -/
theorem field_entries (absent : Absent α) {v : Value} {a : α} (hv : kvs.lookup name = some v)
    (ha : decode v = .ok a) : field name absent decode shape (.entries kvs) = .ok (a, .entries kvs) := by
  simp only [field, FieldReader.read_bind, FieldReader.get_bind, hv, FieldReader.liftM_apply, ha]
  rfl

/-- An optional field absent from an object reads as `none`. -/
theorem field_optional (n : α) (hv : kvs.lookup name = none) :
    field name (.optional n) decode shape (.entries kvs) = .ok (n, .entries kvs) := by
  simp only [field, FieldReader.read_bind, FieldReader.get_bind, hv]
  rfl

/-- A field with a default absent from an object reads as the default. -/
theorem field_fallback (d : α) (hv : kvs.lookup name = none) :
    field name (.fallback d) decode shape (.entries kvs) = .ok (d, .entries kvs) := by
  simp only [field, FieldReader.read_bind, FieldReader.get_bind, hv]
  rfl

end Fields

/-- **A record is read from an object** whose members pass their checks and whose fields the
record's reader reads. -/
theorem readRecord_obj {α : Type} {shape : Shape} {body : FieldReader α}
    {kvs : List (String × Value)} {a : α} {s : FieldSource} (hcheck : checkEntries shape kvs = .ok ())
    (hbody : body shape (.entries kvs) = .ok (a, s)) :
    Value.readRecord shape body (.obj kvs) = .ok a := by
  simp only [Value.readRecord, hcheck]
  show (Prod.fst <$> body shape (.entries kvs)) = _
  rw [hbody]
  rfl

/-! ### Payloads kept as written -/

namespace Value

mutual

/-- **Every object's keys in strictly increasing order**, as a reader holds objects. -/
def KeysSorted : Value → Prop
  | .arr vs => ItemsKeysSorted vs
  | .obj fs => (fs.map Prod.fst).Pairwise (· < ·) ∧ MembersKeysSorted fs
  | _ => True

/-- Every item's keys sorted. -/
def ItemsKeysSorted : List Value → Prop
  | [] => True
  | v :: vs => v.KeysSorted ∧ ItemsKeysSorted vs

/-- Every member's value's keys sorted. -/
def MembersKeysSorted : List (String × Value) → Prop
  | [] => True
  | (_, v) :: fs => v.KeysSorted ∧ MembersKeysSorted fs

end

/-- A key above every key of a sorted object goes last. -/
theorem insertSorted_of_lt {k : String} (v : Value) :
    ∀ {acc : List (String × Value)}, (∀ j ∈ acc.map Prod.fst, j < k) →
      insertSorted k v acc = acc ++ [(k, v)]
  | [], _ => rfl
  | (j, u) :: acc, h => by
    have hj : j < k := h j List.mem_cons_self
    have hrest := insertSorted_of_lt v fun j' hj' => h j' (List.mem_cons_of_mem _ hj')
    simp only [insertSorted]
    rw [if_neg (by simpa using (ne_of_lt hj).symm), if_neg (not_lt_of_gt hj), hrest]
    rfl

mutual

/-- **A value whose keys are sorted is held by a reader as it is.** -/
theorem canonical_of_keysSorted : ∀ v : Value, v.KeysSorted → v.canonical = v
  | .arr vs, h => by
    simp only [canonical]
    rw [canonicalItems_of_keysSorted vs h]
  | .obj fs, h => by
    simp only [canonical]
    rw [canonicalMembers_of_keysSorted [] fs (by simpa using h.1) h.2]
    rfl
  | .null, _ => rfl
  | .bool _, _ => rfl
  | .num _, _ => rfl
  | .str _, _ => rfl

theorem canonicalItems_of_keysSorted :
    ∀ vs : List Value, ItemsKeysSorted vs → canonicalItems vs = vs
  | [], _ => rfl
  | v :: vs, h => by
    simp only [canonicalItems]
    rw [canonical_of_keysSorted v h.1, canonicalItems_of_keysSorted vs h.2]

/-- Members in increasing key order, each above the members before, are inserted last. -/
theorem canonicalMembers_of_keysSorted : ∀ (acc fs : List (String × Value)),
    (acc.map Prod.fst ++ fs.map Prod.fst).Pairwise (· < ·) → MembersKeysSorted fs →
      canonicalMembers acc fs = acc ++ fs
  | acc, [], _, _ => by simp [canonicalMembers]
  | acc, (k, v) :: fs, hsorted, h => by
    simp only [canonicalMembers]
    have hk : ∀ j ∈ acc.map Prod.fst, j < k := by
      intro j hj
      exact (List.pairwise_append.1 hsorted).2.2 j hj k List.mem_cons_self
    rw [insertSorted_of_lt _ hk, canonical_of_keysSorted v h.1,
      canonicalMembers_of_keysSorted _ fs (by simpa using hsorted) h.2]
    simp

end

mutual

/-- Sorted keys are never repeated. -/
theorem uniqueKeys_of_keysSorted : ∀ v : Value, v.KeysSorted → v.UniqueKeys
  | .arr vs, h => itemsUniqueKeys_of_keysSorted vs h
  | .obj fs, h => ⟨h.1.imp ne_of_lt, membersUniqueKeys_of_keysSorted fs h.2⟩
  | .null, _ => trivial
  | .bool _, _ => trivial
  | .num _, _ => trivial
  | .str _, _ => trivial

theorem itemsUniqueKeys_of_keysSorted :
    ∀ vs : List Value, ItemsKeysSorted vs → ItemsUniqueKeys vs
  | [], _ => trivial
  | v :: vs, h => ⟨uniqueKeys_of_keysSorted v h.1, itemsUniqueKeys_of_keysSorted vs h.2⟩

theorem membersUniqueKeys_of_keysSorted :
    ∀ fs : List (String × Value), MembersKeysSorted fs → MembersUniqueKeys fs
  | [], _ => trivial
  | (_, v) :: fs, h => ⟨uniqueKeys_of_keysSorted v h.1, membersUniqueKeys_of_keysSorted fs h.2⟩

end

end Value

end PinAudit.Json
