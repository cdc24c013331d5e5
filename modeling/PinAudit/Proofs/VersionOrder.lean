import Mathlib.Tactic.SplitIfs
import PinAudit.Version.Order

/-!
# The order of versions

Versions compare item by item, and a version that runs out of items is padded with *null*
items: the padding is equal to the number zero and to the empty qualifier, although the two
differ from each other (a number is above every qualifier). This file works out what kind of
order that is.

Two laws hold for all versions: swapping the versions swaps the answer
(`Version.compare_swap`), and two versions compare equal exactly when they have the same items
(`Version.compare_eq_eq_iff`), so equality of versions is an equivalence.

Transitivity does not hold for all versions (`Version.compare_not_transitive`): `1.0.alpha` is
below `1`, which is below `1-ga-5`, yet `1.0.alpha` is above `1-ga-5`. The order is compared
here with the lexicographic order that reads the padding as the empty qualifier
(`comparePadded`), which is a total order on item lists (`comparePadded_isLE_trans`). The two
agree on every pair of versions except the *flipped* ones (`Version.Flipped`): one version's
items followed by null items, a zero among them, and then a qualifier below the empty one
(`alpha`, `beta`, `milestone`, `rc`, `snapshot`). There the padding is taken for the zero, so
the longer version, which the lexicographic order puts above, comes out below
(`compareItems_of_itemsFlipped`, `comparePadded_of_itemsFlipped`). Among versions of which no
two are flipped, the order is transitive (`Version.compare_isLE_trans`).

Main statements: `Version.compare_laws`, `Version.compare_not_transitive`.
-/

namespace PinAudit.Version

/-! ### Comparing the parts of items -/

theorem thenCompare_eq_then (a b : Ordering) : thenCompare a b = a.then b := by
  cases a <;> rfl

theorem compareDigits_eq_compareLex :
    compareDigits = compareLex (compareOn String.length) Ord.compare := by
  funext a b
  simp [compareDigits, compareLex, compareOn, thenCompare_eq_then]

theorem compareRank_eq_compareLex :
    compareRank = compareLex (compareOn Prod.fst) (compareOn Prod.snd) := by
  funext a b
  simp [compareRank, compareLex, compareOn, thenCompare_eq_then]

instance : Std.TransCmp compareDigits := compareDigits_eq_compareLex ▸ inferInstance

instance : Std.TransCmp compareRank := compareRank_eq_compareLex ▸ inferInstance

theorem compareDigits_eq_eq {a b : String} : compareDigits a b = .eq ↔ a = b := by
  simp only [compareDigits_eq_compareLex, compareLex, compareOn, Ordering.then_eq_eq,
    Std.LawfulEqOrd.compare_eq_iff_eq, and_iff_right_iff_imp]
  intro h
  rw [h]

theorem compareRank_eq_eq {a b : Nat × String} : compareRank a b = .eq ↔ a = b := by
  simp only [compareRank_eq_compareLex, compareLex, compareOn, Ordering.then_eq_eq,
    Std.LawfulEqOrd.compare_eq_iff_eq, Prod.ext_iff]

/-- The qualifier a rank stands for: the named qualifier of its class, or the text that the
last class keeps. -/
def qualifierOfRank (r : Nat × String) : String :=
  match r.1 with
  | 0 => "alpha"
  | 1 => "beta"
  | 2 => "milestone"
  | 3 => "rc"
  | 4 => "snapshot"
  | 5 => ""
  | 6 => "sp"
  | _ => r.2

theorem qualifierOfRank_qualifierRank (q : String) : qualifierOfRank (qualifierRank q) = q := by
  unfold qualifierRank
  split_ifs <;> simp_all [qualifierOfRank]

/-- Different qualifiers have different ranks: the named ones have classes of their own, and
the others keep their text. -/
theorem qualifierRank_injective {x y : String} (h : qualifierRank x = qualifierRank y) :
    x = y := by
  rw [← qualifierOfRank_qualifierRank x, h, qualifierOfRank_qualifierRank]

/-! ### Items form a total order -/

instance : Std.OrientedCmp Item.compare where
  eq_swap {a b} := by
    cases a <;> cases b <;> simp only [Item.compare, Ordering.swap]
    · exact Std.OrientedCmp.eq_swap
    · exact Std.OrientedCmp.eq_swap

instance : Std.TransCmp Item.compare where
  isLE_trans {a b c} hab hbc := by
    -- numbers sit above qualifiers, so only the cases of one kind need the parts' order
    cases a <;> cases b <;> cases c <;> simp only [Item.compare] at hab hbc ⊢
    all_goals first
      | exact Std.TransCmp.isLE_trans hab hbc
      | rfl
      | simp at hab hbc

instance : Std.LawfulEqCmp Item.compare where
  eq_of_compare {a b} h := by
    cases a <;> cases b <;> simp only [Item.compare, reduceCtorEq] at h
    · rw [compareDigits_eq_eq.1 h]
    · rw [qualifierRank_injective (compareRank_eq_eq.1 h)]

/-- The empty qualifier, which the padding stands for in the lexicographic order. -/
abbrev Item.empty : Item := .qualifier ""

/-- An item against the padding compares as against the empty qualifier, except the number
zero, which the padding equals. -/
theorem Item.compareNull_eq (x : Item) :
    x.compareNull = if x = .number "0" then .eq else x.compare .empty := by
  cases x with
  | number d =>
    by_cases hd : d = "0"
    · simp [Item.compareNull, hd]
    · simp [Item.compareNull, Item.compare, hd]
  | qualifier q => simp [Item.compareNull, Item.compare]

/-- Exactly the null items are equal to the padding. -/
theorem Item.compareNull_eq_eq_iff (x : Item) : x.compareNull = .eq ↔ x.isNull = true := by
  cases x with
  | number d => by_cases hd : d = "0" <;> simp [Item.compareNull, Item.isNull, hd]
  | qualifier q =>
    simp only [Item.compareNull, compareRank_eq_eq, Item.isNull, String.isEmpty_iff]
    exact ⟨qualifierRank_injective, fun h => h ▸ rfl⟩

/-! ### The version order on item lists -/

theorem Item.compare_swap (a b : Item) : a.compare b = (b.compare a).swap :=
  Std.OrientedCmp.eq_swap

theorem Item.compare_self (a : Item) : a.compare a = .eq :=
  Std.ReflCmp.compare_self

theorem Item.compare_eq_eq_iff {a b : Item} : a.compare b = .eq ↔ a = b :=
  Std.LawfulEqCmp.compare_eq_iff_eq

/-- The null items are the number zero and the empty qualifier. -/
theorem Item.isNull_iff (x : Item) : x.isNull = true ↔ x = .number "0" ∨ x = .empty := by
  cases x <;> simp [Item.isNull, String.isEmpty_iff]

/-! ### The version order on item lists -/

/-- Swapping two item lists swaps their order. -/
theorem compareItems_swap (A B : List Item) : compareItems A B = (compareItems B A).swap := by
  -- each case has its left side unfolded already; unfold the right side and swap back
  fun_induction compareItems A B with
  | case1 => rw [compareItems]; rfl
  | case2 a as ih =>
    rw [compareItems, thenCompare_eq_then, thenCompare_eq_then, ih, Ordering.swap_then,
      Ordering.swap_swap]
  | case3 b bs ih =>
    rw [compareItems, thenCompare_eq_then, thenCompare_eq_then, ih, Ordering.swap_then]
  | case4 a as b bs ih =>
    rw [compareItems, thenCompare_eq_then, thenCompare_eq_then, ih, Ordering.swap_then,
      ← Item.compare_swap]

/-- A common first part does not change the order. -/
theorem compareItems_append_left (c A B : List Item) :
    compareItems (c ++ A) (c ++ B) = compareItems A B := by
  induction c with
  | nil => rfl
  | cons x c ih => rw [List.cons_append, List.cons_append, compareItems, Item.compare_self, ih]; rfl

/-- Null items at the front of a list compared with the padding are passed over. -/
theorem compareItems_nulls_append {rs : List Item} (hrs : ∀ r ∈ rs, r.isNull = true)
    (rest : List Item) : compareItems (rs ++ rest) [] = compareItems rest [] := by
  induction rs with
  | nil => rfl
  | cons r rs ih =>
    have hr : r.compareNull = .eq := (Item.compareNull_eq_eq_iff r).2 (hrs r (by simp))
    rw [List.cons_append, compareItems, hr, ih fun x hx => hrs x (by simp [hx])]
    rfl

/-- An item list is **trimmed** when it does not end in a null item. -/
def Trimmed (A : List Item) : Prop := ∀ x ∈ A.getLast?, x.isNull = false

/-- Dropping the null items at the end trims a list; so the items of a text are trimmed. -/
theorem dropNullTail_trimmed (l : List Item) : Trimmed (dropNullTail l) := by
  intro x hx
  have h := List.head?_dropWhile_not Item.isNull l.reverse
  rw [dropNullTail, List.getLast?_reverse] at hx
  rw [Option.mem_def.1 hx] at h
  exact h

theorem Trimmed.tail {a : Item} {as : List Item} (h : Trimmed (a :: as)) : Trimmed as := by
  intro x hx
  apply h x
  simp [List.getLast?_cons, Option.mem_def.1 hx]

/-- A trimmed list that is not empty has an item that is not null: its last one. -/
theorem Trimmed.exists_not_null {A : List Item} (h : Trimmed A) (hne : A ≠ []) :
    ∃ x ∈ A, x.isNull = false := by
  obtain ⟨x, hx⟩ := Option.ne_none_iff_exists'.1 (mt List.getLast?_eq_none_iff.1 hne)
  exact ⟨x, List.mem_of_getLast? hx, h x hx⟩

/-- A list equal to the padding has only null items. -/
theorem all_null_of_compareItems_nil :
    ∀ R : List Item, compareItems R [] = .eq → ∀ x ∈ R, x.isNull = true
  | [], _ => by simp
  | r :: rs, h => by
    rw [compareItems, thenCompare_eq_then, Ordering.then_eq_eq] at h
    intro x hx
    rcases List.mem_cons.1 hx with rfl | hx
    · exact (Item.compareNull_eq_eq_iff x).1 h.1
    · exact all_null_of_compareItems_nil rs h.2 x hx

/-- A trimmed list that is not empty is not equal to the padding. -/
theorem compareItems_nil_ne_eq {R : List Item} (hR : Trimmed R) (hne : R ≠ []) :
    compareItems R [] ≠ .eq := by
  intro h
  obtain ⟨x, hx, hnull⟩ := hR.exists_not_null hne
  simp [all_null_of_compareItems_nil R h x hx] at hnull

/-- **Two trimmed item lists compare equal exactly when they are the same.** -/
theorem compareItems_eq_eq_iff {A B : List Item} (hA : Trimmed A) (hB : Trimmed B) :
    compareItems A B = .eq ↔ A = B := by
  induction A generalizing B with
  | nil =>
    cases B with
    | nil => simp [compareItems]
    | cons b bs =>
      have hne := compareItems_nil_ne_eq hB (List.cons_ne_nil b bs)
      rw [compareItems_swap, Ordering.swap_eq_eq]
      simpa using hne
  | cons a as ih =>
    cases B with
    | nil => simpa using compareItems_nil_ne_eq hA (List.cons_ne_nil a as)
    | cons b bs =>
      rw [compareItems, thenCompare_eq_then, Ordering.then_eq_eq, Item.compare_eq_eq_iff,
        ih hA.tail hB.tail, List.cons.injEq]

/-! ### The padded lexicographic order -/

/-- **The lexicographic order of item lists** when the shorter one is padded with empty
qualifiers: `compareItems` with the padding read as `Item.empty` throughout. -/
def comparePadded : List Item → List Item → Ordering
  | [], [] => .eq
  | a :: as, [] => thenCompare (a.compare .empty) (comparePadded as [])
  | [], b :: bs => thenCompare (Item.empty.compare b) (comparePadded [] bs)
  | a :: as, b :: bs => thenCompare (a.compare b) (comparePadded as bs)

/-- A list padded with empty qualifiers up to length `n`. -/
def padTo (n : Nat) (A : List Item) : List Item := A ++ List.replicate (n - A.length) .empty

theorem padTo_nil_succ (n : Nat) : padTo (n + 1) [] = .empty :: padTo n [] := by
  simp [padTo, List.replicate_succ]

theorem padTo_cons_succ (n : Nat) (a : Item) (as : List Item) :
    padTo (n + 1) (a :: as) = a :: padTo n as := by
  simp [padTo]

/-- The padded order is the lexicographic order of the lists padded to a common length. -/
theorem comparePadded_eq_compareLex (n : Nat) :
    ∀ A B : List Item, A.length ≤ n → B.length ≤ n →
      comparePadded A B = List.compareLex Item.compare (padTo n A) (padTo n B) := by
  induction n with
  | zero =>
    intro A B hA hB
    rw [List.length_eq_zero_iff.1 (Nat.le_zero.1 hA), List.length_eq_zero_iff.1 (Nat.le_zero.1 hB),
      comparePadded]
    rfl
  | succ n ih =>
    -- one item of each padded list at a time; a list that has run out gives `Item.empty`
    intro A B hA hB
    cases A with
    | nil =>
      cases B with
      | nil =>
        rw [padTo_nil_succ, List.compareLex_cons_cons, ← ih [] [] (Nat.zero_le _) (Nat.zero_le _),
          Item.compare_self]
        rfl
      | cons b bs =>
        rw [padTo_nil_succ, padTo_cons_succ, List.compareLex_cons_cons,
          ← ih [] bs (Nat.zero_le _) (by simpa using hB), comparePadded, thenCompare_eq_then]
    | cons a as =>
      cases B with
      | nil =>
        rw [padTo_nil_succ, padTo_cons_succ, List.compareLex_cons_cons,
          ← ih as [] (by simpa using hA) (Nat.zero_le _), comparePadded, thenCompare_eq_then]
      | cons b bs =>
        rw [padTo_cons_succ, padTo_cons_succ, List.compareLex_cons_cons,
          ← ih as bs (by simpa using hA) (by simpa using hB), comparePadded, thenCompare_eq_then]

theorem comparePadded_swap (A B : List Item) : comparePadded A B = (comparePadded B A).swap := by
  have hA : A.length ≤ max A.length B.length := Nat.le_max_left _ _
  have hB : B.length ≤ max A.length B.length := Nat.le_max_right _ _
  rw [comparePadded_eq_compareLex _ A B hA hB, comparePadded_eq_compareLex _ B A hB hA]
  exact Std.OrientedCmp.eq_swap

/-- **The padded order is transitive.** -/
theorem comparePadded_isLE_trans {A B C : List Item} (hAB : (comparePadded A B).isLE)
    (hBC : (comparePadded B C).isLE) : (comparePadded A C).isLE := by
  -- pad all three lists to one length, where the order is `List.compareLex`
  let n := max A.length (max B.length C.length)
  have hA : A.length ≤ n := Nat.le_max_left _ _
  have hB : B.length ≤ n := Nat.le_trans (Nat.le_max_left _ _) (Nat.le_max_right _ _)
  have hC : C.length ≤ n := Nat.le_trans (Nat.le_max_right _ _) (Nat.le_max_right _ _)
  rw [comparePadded_eq_compareLex n A B hA hB] at hAB
  rw [comparePadded_eq_compareLex n B C hB hC] at hBC
  rw [comparePadded_eq_compareLex n A C hA hC]
  exact Std.TransCmp.isLE_trans hAB hBC

theorem comparePadded_append_left (c A B : List Item) :
    comparePadded (c ++ A) (c ++ B) = comparePadded A B := by
  induction c with
  | nil => rfl
  | cons x c ih =>
    rw [List.cons_append, List.cons_append, comparePadded, Item.compare_self, ih]; rfl

/-- Read as the empty qualifier, a zero after null items puts a list above the padding. -/
theorem comparePadded_nulls_zero_append {rs : List Item} (hrs : ∀ r ∈ rs, r.isNull = true)
    (hz : Item.number "0" ∈ rs) (rest : List Item) : comparePadded (rs ++ rest) [] = .gt := by
  induction rs with
  | nil => simp at hz
  | cons r rs ih =>
    rw [List.cons_append, comparePadded]
    rcases (Item.isNull_iff r).1 (hrs r (by simp)) with rfl | rfl
    · rfl
    · have hz' : Item.number "0" ∈ rs := by simpa using hz
      rw [Item.compare_self, ih (fun x hx => hrs x (by simp [hx])) hz']
      rfl

/-! ### Where the two orders part -/

/-- A list **hides a pre-release** when it starts with null items, a zero among them, and then
has an item below the padding: a qualifier below the empty one. -/
def HidesPreRelease (R : List Item) : Prop :=
  ∃ rs x rest, R = rs ++ x :: rest ∧ (∀ r ∈ rs, r.isNull = true) ∧ Item.number "0" ∈ rs ∧
    x.compareNull = .lt

/-- `B` is `A` **flipped**: `A` followed by items that hide a pre-release. -/
def ItemsFlipped (A B : List Item) : Prop := ∃ R, B = A ++ R ∧ HidesPreRelease R

/-- A null item in front keeps a pre-release hidden. -/
theorem HidesPreRelease.cons {r : Item} {R : List Item} (hr : r.isNull = true)
    (h : HidesPreRelease R) : HidesPreRelease (r :: R) := by
  obtain ⟨rs, x, rest, rfl, hnull, hzero, hx⟩ := h
  exact ⟨r :: rs, x, rest, rfl, List.forall_mem_cons.2 ⟨hr, hnull⟩, List.mem_cons_of_mem _ hzero,
    hx⟩

/-- A zero in front of null items and an item below the padding hides a pre-release. -/
theorem hidesPreRelease_zero_cons {rs : List Item} {x : Item} (rest : List Item)
    (hnull : ∀ r ∈ rs, r.isNull = true) (hx : x.compareNull = .lt) :
    HidesPreRelease (.number "0" :: (rs ++ x :: rest)) :=
  ⟨.number "0" :: rs, x, rest, rfl, List.forall_mem_cons.2 ⟨rfl, hnull⟩, List.mem_cons_self, hx⟩

theorem itemsFlipped_nil_left {B : List Item} : ItemsFlipped [] B ↔ HidesPreRelease B := by
  simp [ItemsFlipped]

theorem itemsFlipped_cons_cons {a : Item} {as bs : List Item} :
    ItemsFlipped (a :: as) (a :: bs) ↔ ItemsFlipped as bs := by
  simp [ItemsFlipped]

/-- A flipped list is below its first part in the version order. -/
theorem compareItems_of_itemsFlipped {A B : List Item} (h : ItemsFlipped A B) :
    compareItems A B = .gt := by
  obtain ⟨R, rfl, rs, x, rest, rfl, hnull, -, hx⟩ := h
  -- cancel the common first part, then pass over the nulls to the qualifier below the padding
  have hcancel := compareItems_append_left A [] (rs ++ x :: rest)
  rw [List.append_nil] at hcancel
  rw [hcancel, compareItems_swap, compareItems_nulls_append hnull, compareItems, hx]
  rfl

/-- A flipped list is above its first part in the padded order. -/
theorem comparePadded_of_itemsFlipped {A B : List Item} (h : ItemsFlipped A B) :
    comparePadded A B = .lt := by
  obtain ⟨R, rfl, rs, x, rest, rfl, hnull, hzero, -⟩ := h
  have hcancel := comparePadded_append_left A [] (rs ++ x :: rest)
  rw [List.append_nil] at hcancel
  rw [hcancel, comparePadded_swap, comparePadded_nulls_zero_append hnull hzero]
  rfl

/-- A trimmed list that is not empty and, past its null items, goes on with no item below
the padding is above the padding. -/
theorem compareItems_nil_eq_gt {R : List Item} (hR : Trimmed R) (hne : R ≠ [])
    (hlt : ∀ rs x rest, R = rs ++ x :: rest → (∀ r ∈ rs, r.isNull = true) →
      x.compareNull ≠ .lt) :
    compareItems R [] = .gt := by
  -- split `R` at its first item that is not null; there is one, the last item of `R`
  have hsome : (R.find? fun x => !x.isNull).isSome := by
    obtain ⟨x, hx, hnull⟩ := hR.exists_not_null hne
    exact List.find?_isSome.2 ⟨x, hx, by simp [hnull]⟩
  obtain ⟨x, hfind⟩ := Option.isSome_iff_exists.1 hsome
  obtain ⟨hx, rs, rest, rfl, hrs⟩ := List.find?_eq_some_iff_append.1 hfind
  have hrs' : ∀ r ∈ rs, r.isNull = true := fun r hr => by simpa using hrs r hr
  have hxeq : x.compareNull ≠ .eq := by simpa [Item.compareNull_eq_eq_iff] using hx
  rw [compareItems_nulls_append hrs', compareItems]
  cases hcx : x.compareNull with
  | lt => exact absurd hcx (hlt rs x rest rfl hrs')
  | eq => exact absurd hcx hxeq
  | gt => rfl

/-- **Against the padding, the two orders agree** on a trimmed list that hides no pre-release. -/
theorem compareItems_nil_eq_comparePadded {R : List Item} (hR : Trimmed R)
    (hR' : ¬ HidesPreRelease R) : compareItems R [] = comparePadded R [] := by
  induction R with
  | nil => rw [compareItems, comparePadded]
  | cons r rs ih =>
    rw [compareItems, comparePadded]
    by_cases hr : r.isNull = true
    · rcases (Item.isNull_iff r).1 hr with rfl | rfl
      · -- a zero equals the padding but is above the empty qualifier: what follows must be
        -- above the padding too, or the list would hide a pre-release
        have hne : rs ≠ [] := by
          rintro rfl
          simpa [Item.isNull] using hR (.number "0") rfl
        have hgt : compareItems rs [] = .gt := by
          refine compareItems_nil_eq_gt hR.tail hne fun rs' x rest hsplit hnull hx => hR' ?_
          rw [hsplit]
          exact hidesPreRelease_zero_cons rest hnull hx
        rw [Item.compareNull_eq, if_pos rfl, hgt]
        rfl
      · -- the empty qualifier equals the padding in both orders
        have hR'' : ¬ HidesPreRelease rs := fun h => hR' (h.cons rfl)
        have hnull : Item.empty.compareNull = .eq := (Item.compareNull_eq_eq_iff _).2 rfl
        rw [hnull, Item.compare_self, ih hR.tail hR'']
    · -- any other item decides at once, and the same way in both orders
      have hzero : r ≠ .number "0" := fun h => hr (by simp [h, Item.isNull])
      have hcmp : r.compareNull = r.compare .empty := by rw [Item.compareNull_eq, if_neg hzero]
      have hne : r.compare .empty ≠ .eq := by
        rw [← hcmp, Ne, Item.compareNull_eq_eq_iff]
        exact hr
      rw [hcmp]
      cases hc : r.compare .empty with
      | lt => rfl
      | eq => exact absurd hc hne
      | gt => rfl

/-- **The two orders agree on trimmed lists neither of which is the other flipped.** -/
theorem compareItems_eq_comparePadded {A B : List Item} (hA : Trimmed A) (hB : Trimmed B)
    (hAB : ¬ ItemsFlipped A B) (hBA : ¬ ItemsFlipped B A) :
    compareItems A B = comparePadded A B := by
  induction A generalizing B with
  | nil =>
    cases B with
    | nil => rw [compareItems, comparePadded]
    | cons b bs =>
      rw [compareItems_swap, comparePadded_swap,
        compareItems_nil_eq_comparePadded hB (mt itemsFlipped_nil_left.2 hAB)]
  | cons a as ih =>
    cases B with
    | nil => exact compareItems_nil_eq_comparePadded hA (mt itemsFlipped_nil_left.2 hBA)
    | cons b bs =>
      rw [compareItems, comparePadded]
      by_cases hab : a = b
      · -- equal first items: the rest decides, and flipping passes to the rests
        subst hab
        rw [ih hA.tail hB.tail (mt itemsFlipped_cons_cons.2 hAB) (mt itemsFlipped_cons_cons.2 hBA)]
      · cases hc : a.compare b with
        | lt => rfl
        | eq => exact absurd (Item.compare_eq_eq_iff.1 hc) hab
        | gt => rfl

/-! ### The order of versions -/

theorem itemList_trimmed (v : Version) : Trimmed v.itemList := dropNullTail_trimmed _

/-- Two versions are **flipped** when the items of `w` are those of `v` flipped: `v`'s items,
then null items with a zero among them, then a qualifier below the empty one (`1` and
`1.0.alpha`, `2-rc` and `2-rc-0-beta`). -/
def Flipped (v w : Version) : Prop := ItemsFlipped v.itemList w.itemList

theorem compare_swap (v w : Version) : v.compare w = (w.compare v).swap :=
  compareItems_swap _ _

theorem compare_eq_eq_iff (v w : Version) : v.compare w = .eq ↔ v.itemList = w.itemList :=
  compareItems_eq_eq_iff (itemList_trimmed v) (itemList_trimmed w)

/-- Versions that are not flipped compare by the padded lexicographic order. -/
theorem compare_eq_comparePadded {v w : Version} (hvw : ¬ v.Flipped w) (hwv : ¬ w.Flipped v) :
    v.compare w = comparePadded v.itemList w.itemList :=
  compareItems_eq_comparePadded (itemList_trimmed v) (itemList_trimmed w) hvw hwv

/-- Among versions no two of which are flipped, the version order is transitive. -/
theorem compare_isLE_trans {u v w : Version}
    (hflip : ∀ x ∈ [u, v, w], ∀ y ∈ [u, v, w], ¬ x.Flipped y)
    (huv : u.compare v ≠ .gt) (hvw : v.compare w ≠ .gt) : u.compare w ≠ .gt := by
  -- all three comparisons are comparisons of the padded order, which is transitive
  have hpad : ∀ x ∈ [u, v, w], ∀ y ∈ [u, v, w],
      x.compare y = comparePadded x.itemList y.itemList :=
    fun x hx y hy => compare_eq_comparePadded (hflip x hx y hy) (hflip y hy x hx)
  rw [hpad u (by simp) v (by simp)] at huv
  rw [hpad v (by simp) w (by simp)] at hvw
  rw [hpad u (by simp) w (by simp)]
  exact Ordering.isLE_iff_ne_gt.1 (comparePadded_isLE_trans (Ordering.isLE_iff_ne_gt.2 huv)
    (Ordering.isLE_iff_ne_gt.2 hvw))

/-- **The laws of the version order.** For all versions, swapping two versions swaps their
order, and two versions compare equal exactly when they have the same items. The order is the
padded lexicographic order on every pair of versions that is not flipped, and on a flipped pair
it gives the opposite answer; transitivity holds among versions no two of which are flipped. -/
theorem compare_laws (u v w : Version) :
    u.compare v = (v.compare u).swap ∧
    (u.compare v = .eq ↔ u.itemList = v.itemList) ∧
    (¬ u.Flipped v → ¬ v.Flipped u → u.compare v = comparePadded u.itemList v.itemList) ∧
    (u.Flipped v → u.compare v = .gt ∧ comparePadded u.itemList v.itemList = .lt) ∧
    ((∀ x ∈ [u, v, w], ∀ y ∈ [u, v, w], ¬ x.Flipped y) →
      u.compare v ≠ .gt → v.compare w ≠ .gt → u.compare w ≠ .gt) :=
  ⟨compare_swap u v, compare_eq_eq_iff u v, compare_eq_comparePadded,
    fun h => ⟨compareItems_of_itemsFlipped h, comparePadded_of_itemsFlipped h⟩,
    compare_isLE_trans⟩

/-- **The version order is not transitive**: `1.0.alpha` is below `1`, which is below
`1-ga-5`, yet `1.0.alpha` is above `1-ga-5`; `1` and `1.0.alpha` are flipped. -/
theorem compare_not_transitive :
    (⟨"1.0.alpha"⟩ : Version).compare ⟨"1"⟩ = .lt ∧ (⟨"1"⟩ : Version).compare ⟨"1-ga-5"⟩ = .lt ∧
      (⟨"1.0.alpha"⟩ : Version).compare ⟨"1-ga-5"⟩ = .gt := by
  have h1 : items "1.0.alpha" = [.number "1", .number "0", .qualifier "alpha"] := by decide
  have h2 : items "1" = [.number "1"] := by decide
  have h3 : items "1-ga-5" = [.number "1", .qualifier "", .number "5"] := by decide
  simp only [Version.compare, itemList, h1, h2, h3, compareItems]
  decide

end PinAudit.Version
