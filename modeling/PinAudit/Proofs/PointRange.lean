import PinAudit.Proofs.VersionOrder
import PinAudit.Version.Range

/-!
# Ranges with identical bounds

A range has *identical bounds* when its lowest lower bound and its highest upper bound are the
same bound: equal versions, both inclusive or both exclusive. A policy may allow such ranges
while it bans the others, on the grounds that they pin one version.

With inclusive bounds that is what they do: the range holds exactly the versions equal to the
bound (`Range.contains_iff_of_identicalBounds`). The argument runs over the intervals of the
range. Reading guarantees that no interval's lower bound is above its upper bound
(`Range.parse_ordered`); the lowest lower bound is below every lower bound and the highest upper
bound above every upper bound (`Range.foldBounds_below`). So every bound of every interval is
squeezed between two copies of the common bound, and the two folds stay at the first interval
(`Range.foldBounds_eq_first`), whose bounds are then the common bound itself.

Two things limit this.
- With exclusive bounds the range need not hold the bound: `(1,1)` has identical bounds and
  holds no version at all (`Range.exclusivePoint_contains_nothing`). What survives is the half
  that every version the range holds is equal to the bound.
- The squeeze chains comparisons, and the version order is transitive only among versions of
  which no two are flipped (`Version.compare_isLE_trans`). The statement therefore speaks of
  versions that, together with the bounds of the range, contain no flipped pair.

Main statements: `Range.contains_iff_of_identicalBounds`, `Range.exclusivePoint_contains_nothing`.
-/

namespace PinAudit.Version

/-! ### The version order as relations -/

theorem le_iff (v w : Version) : v.le w = true ↔ v.compare w ≠ .gt := by
  simp [le]

theorem equiv_iff (v w : Version) : v.equiv w = true ↔ v.itemList = w.itemList := by
  simp [equiv, compare_eq_eq_iff]

theorem le_of_lt {v w : Version} (h : v.lt w = true) : v.le w = true := by
  simp only [lt, beq_iff_eq] at h
  simp [le, h]

theorem le_refl (v : Version) : v.le v = true :=
  (le_iff v v).2 (by simp [(compare_eq_eq_iff v v).2 rfl])

/-- Two versions are always comparable: if `v` is not below or at `w`, then `w` is below `v`. -/
theorem le_of_not_le {v w : Version} (h : v.le w = false) : w.le v = true := by
  rw [le_iff, compare_swap]
  have hgt : v.compare w = .gt := by simpa [le] using h
  simp [hgt]

/-- Versions with the same items compare alike with every other version. -/
theorem compare_congr_left {v v' : Version} (h : v.itemList = v'.itemList) (w : Version) :
    v.compare w = v'.compare w := by
  simp only [compare, h]

theorem compare_congr_right (v : Version) {w w' : Version} (h : w.itemList = w'.itemList) :
    v.compare w = v.compare w' := by
  simp only [compare, h]

theorem equiv_of_le_of_le {v w : Version} (hvw : v.le w = true) (hwv : w.le v = true) :
    v.equiv w = true := by
  rw [le_iff] at hvw hwv
  rw [equiv_iff, ← compare_eq_eq_iff]
  rw [compare_swap] at hwv
  cases h : v.compare w
  · simp [h] at hwv
  · rfl
  · exact absurd h hvw

/-- A pair of versions with the same items is not flipped: flipping puts items on one side. -/
theorem not_flipped_of_itemList_eq {v w : Version} (h : v.itemList = w.itemList) :
    ¬ v.Flipped w := by
  intro hflip
  have hgt := compareItems_of_itemsFlipped hflip
  rw [(compareItems_eq_eq_iff (itemList_trimmed v) (itemList_trimmed w)).2 h] at hgt
  exact absurd hgt (by decide)

/-- Versions of which **no two are flipped**; the version order is transitive among them. -/
def Unflipped (vs : List Version) : Prop := ∀ x ∈ vs, ∀ y ∈ vs, ¬ x.Flipped y

theorem Unflipped.sublist {vs ws : List Version} (h : Unflipped ws) (hsub : ∀ x ∈ vs, x ∈ ws) :
    Unflipped vs :=
  fun x hx y hy => h x (hsub x hx) y (hsub y hy)

theorem Unflipped.le_trans {vs : List Version} (h : Unflipped vs) {u v w : Version}
    (hu : u ∈ vs) (hv : v ∈ vs) (hw : w ∈ vs) (huv : u.le v = true) (hvw : v.le w = true) :
    u.le w = true := by
  rw [le_iff] at huv hvw ⊢
  have hsub : ∀ x ∈ [u, v, w], x ∈ vs := by simp [hu, hv, hw]
  exact compare_isLE_trans (h.sublist hsub) huv hvw

/-! ### Intervals as read -/

/-- An interval is **ordered** when its lower bound is not above its upper bound. -/
def Interval.Ordered (i : Interval) : Prop :=
  ∀ l ∈ i.lower, ∀ u ∈ i.upper, l.version.le u.version = true

/-- Reading an interval refuses a lower bound above the upper one, and a single version is
its own lower and upper bound. -/
theorem Interval.parse_ordered {text : String} {o c : Char} {inner : List Char} {i : Interval}
    (h : Interval.parse text o inner c = .ok i) : i.Ordered := by
  unfold Interval.parse at h
  split at h
  · -- a single version is both bounds
    split at h
    · cases h
    · split at h
      · cases h
        intro l hl u hu
        simp only [Option.mem_def, Option.some.injEq] at hl hu
        subst hl hu
        exact le_refl _
      · cases h
  · -- two sides: both present only when the lower one is not above the upper one
    dsimp only at h
    split at h
    · rename_i l u hl hu
      split at h
      · cases h
      · rename_i hgt
        cases h
        intro l' hl' u' hu'
        simp only [hl, hu, Option.mem_def, Option.some.injEq] at hl' hu'
        subst hl' hu'
        simpa [le] using hgt
    · rename_i hnot
      cases h
      intro l hl u hu
      exact absurd (Option.mem_def.1 hu) (hnot l u (Option.mem_def.1 hl))
  · cases h

end PinAudit.Version

namespace PinAudit

/-- A computation followed by another succeeds when the first succeeds and the second succeeds
on its value. -/
theorem Except.bind_eq_ok {ε α β : Type} {x : Except ε α} {f : α → Except ε β} {b : β} :
    x >>= f = .ok b ↔ ∃ a, x = .ok a ∧ f a = .ok b := by
  cases x <;> simp [bind, Except.bind]

end PinAudit

namespace PinAudit.Range

open Version

theorem intervalsFrom_ordered :
    ∀ (fuel : Nat) (rest : List Char) (is : List Interval) (left : List Char),
      intervalsFrom fuel rest = .ok (is, left) → ∀ i ∈ is, i.Ordered
  | 0, rest, is, left, h => by
    simp only [intervalsFrom, Except.ok.injEq, Prod.mk.injEq] at h
    simp [← h.1]
  | fuel + 1, rest, is, left, h => by
    unfold intervalsFrom at h
    split at h
    · split at h
      · split at h
        · cases h
        · -- one interval read, then the rest of the text
          obtain ⟨i, hi, h⟩ := Except.bind_eq_ok.1 h
          obtain ⟨res, hm, h⟩ := Except.bind_eq_ok.1 h
          simp only [pure, Except.pure, Except.ok.injEq, Prod.mk.injEq] at h
          obtain ⟨rfl, -⟩ := h
          intro i' hi'
          rcases List.mem_cons.1 hi' with rfl | hi'
          · exact Interval.parse_ordered hi
          · exact intervalsFrom_ordered fuel _ res.1 res.2 hm i' hi'
      · simp only [Except.ok.injEq, Prod.mk.injEq] at h
        simp [← h.1]
    · simp only [Except.ok.injEq, Prod.mk.injEq] at h
      simp [← h.1]

/-- **Every interval of a range read from text is ordered.** -/
theorem parse_ordered {t : String} {r : Range} (h : Range.parse t = .ok r) :
    ∀ i ∈ r.intervals, i.Ordered := by
  unfold Range.parse at h
  obtain ⟨⟨is, left⟩, hm, h⟩ := Except.bind_eq_ok.1 h
  dsimp only at h
  split at h
  · cases h
  · split at h
    · simp only [pure, Except.pure, Except.ok.injEq] at h
      subst h
      exact intervalsFrom_ordered _ _ is left hm
    · cases h

/-! ### Folding the bounds -/

section Fold

variable {pick : Bound → Bound → Bound}

/-- A fold that ends at a bound met no unbounded end. -/
theorem foldBounds_isSome {acc : Option Bound} {bs : List (Option Bound)} {b : Bound}
    (h : foldBounds pick acc bs = some b) : ∀ ob ∈ bs, ob.isSome := by
  induction bs generalizing acc with
  | nil => simp
  | cons ob bs ih =>
    cases ob with
    | none => simp [foldBounds] at h
    | some x =>
      have hrest : ∀ ob ∈ bs, ob.isSome := by
        cases acc with
        | none => exact ih h
        | some a => exact ih h
      simpa using hrest

/-- A fold whose step keeps one of its two bounds ends at the bound it started from or at one
of the bounds folded. -/
theorem foldBounds_mem (hpick : ∀ a x, pick a x = a ∨ pick a x = x) {acc : Option Bound}
    {bs : List (Option Bound)} {b : Bound} (h : foldBounds pick acc bs = some b) :
    acc = some b ∨ some b ∈ bs := by
  induction bs generalizing acc with
  | nil => exact .inl h
  | cons ob bs ih =>
    cases ob with
    | none => simp [foldBounds] at h
    | some x =>
      cases acc with
      | none =>
        rcases ih h with hx | hb
        · exact .inr (hx ▸ List.mem_cons_self)
        · exact .inr (List.mem_cons_of_mem _ hb)
      | some a =>
        rcases ih h with hx | hb
        · -- the step kept the bound started from, or took the one folded
          rcases hpick a x with ha | ha
          · exact .inl (by rw [← hx, ha])
          · exact .inr (by rw [← hx, ha]; exact List.mem_cons_self)
        · exact .inr (List.mem_cons_of_mem _ hb)

/-- **A fold that keeps the `R`-first bound ends `R`-before every bound it saw**, provided `R`
is reflexive, total and transitive on the versions of those bounds. -/
theorem foldBounds_below {R : Version → Version → Bool}
    (hpick : ∀ a x, pick a x = if R a.version x.version then a else x)
    (hrefl : ∀ v, R v v = true) (htotal : ∀ v w, R v w = false → R w v = true)
    {S : List Version} (htrans : ∀ u ∈ S, ∀ v ∈ S, ∀ w ∈ S, R u v = true → R v w = true →
      R u w = true) :
    ∀ {o : Option Bound} {bs : List (Option Bound)} {b : Bound},
      (∀ a ∈ o, a.version ∈ S) → (∀ ob ∈ bs, ∀ x ∈ ob, x.version ∈ S) →
      foldBounds pick o bs = some b →
      (∀ a ∈ o, R b.version a.version = true) ∧ ∀ ob ∈ bs, ∀ x ∈ ob, R b.version x.version = true
  | o, [], b, _, _, h => by
    simp only [foldBounds] at h
    subst h
    simp [hrefl]
  | o, none :: bs, b, _, _, h => by simp [foldBounds] at h
  | none, some x :: bs, b, _, hbs, h => by
    have ih := foldBounds_below hpick hrefl htotal htrans (by simpa using hbs (some x) (by simp))
      (fun ob hob => hbs ob (List.mem_cons_of_mem _ hob)) h
    simpa using ih
  | some a, some x :: bs, b, hacc, hbs, h => by
    rw [foldBounds] at h
    have ha : a.version ∈ S := hacc a rfl
    have hx : x.version ∈ S := hbs (some x) List.mem_cons_self x rfl
    have hbs' : ∀ ob ∈ bs, ∀ y ∈ ob, y.version ∈ S := fun ob hob => hbs ob (List.mem_cons_of_mem _ hob)
    have hpx : pick a x = a ∨ pick a x = x := by rw [hpick]; split <;> simp
    have hpS : (pick a x).version ∈ S := by
      rcases hpx with h' | h'
      · rw [h']
        exact ha
      · rw [h']
        exact hx
    -- the bound the fold ends at is one of those it saw, so transitivity applies to it
    have hb : b.version ∈ S := by
      rcases foldBounds_mem (fun a x => by rw [hpick]; split <;> simp) h with h' | h'
      · cases h'
        exact hpS
      · obtain ⟨ob, hob, hbob⟩ : ∃ ob ∈ bs, b ∈ ob := ⟨some b, h', rfl⟩
        exact hbs' ob hob b hbob
    obtain ⟨hbp, hrest⟩ := foldBounds_below hpick hrefl htotal htrans (by simpa using hpS) hbs' h
    have hbp : R b.version (pick a x).version = true := hbp _ rfl
    have hbax : R b.version a.version = true ∧ R b.version x.version = true := by
      rw [hpick] at hbp
      cases hax : R a.version x.version
      · rw [hax] at hbp
        exact ⟨htrans _ hb _ hx _ ha hbp (htotal _ _ hax), hbp⟩
      · rw [hax] at hbp
        exact ⟨hbp, htrans _ hb _ ha _ hx hbp hax⟩
    refine ⟨fun a' ha' => ?_, fun ob hob y hy => ?_⟩
    · cases ha'
      exact hbax.1
    · rcases List.mem_cons.1 hob with rfl | hob
      · cases hy
        exact hbax.2
      · exact hrest ob hob y hy

/-- A fold stays at its starting bound when that bound is `R`-before every bound folded. -/
theorem foldBounds_eq_first {R : Version → Version → Bool}
    (hpick : ∀ a x, pick a x = if R a.version x.version then a else x) (a : Bound) :
    ∀ {bs : List (Option Bound)}, (∀ ob ∈ bs, ∃ x, ob = some x ∧ R a.version x.version = true) →
      foldBounds pick (some a) bs = some a
  | [], _ => rfl
  | ob :: bs, hall => by
    obtain ⟨x, rfl, hx⟩ := hall ob List.mem_cons_self
    have hkeep : pick a x = a := by rw [hpick, if_pos hx]
    rw [foldBounds, hkeep]
    exact foldBounds_eq_first hpick a fun ob hob => hall ob (List.mem_cons_of_mem _ hob)

end Fold

theorem lowerOf_eq (a x : Bound) :
    lowerOf a x = if a.version.le x.version then a else x := rfl

theorem upperOf_eq (a x : Bound) :
    upperOf a x = if (fun v w : Version => w.le v) a.version x.version then a else x := rfl

/-! ### The bounds of a range -/

/-- The versions of all bounds of a range's intervals. -/
def boundVersions (r : Range) : List Version :=
  r.intervals.flatMap fun i => (i.lower.toList ++ i.upper.toList).map Bound.version

theorem lower_mem_boundVersions {r : Range} {i : Interval} (hi : i ∈ r.intervals) {l : Bound}
    (hl : l ∈ i.lower) : l.version ∈ r.boundVersions :=
  List.mem_flatMap.2 ⟨i, hi, List.mem_map.2 ⟨l, by simp [Option.mem_def.1 hl], rfl⟩⟩

theorem upper_mem_boundVersions {r : Range} {i : Interval} (hi : i ∈ r.intervals) {u : Bound}
    (hu : u ∈ i.upper) : u.version ∈ r.boundVersions :=
  List.mem_flatMap.2 ⟨i, hi, List.mem_map.2 ⟨u, by simp [Option.mem_def.1 hu], rfl⟩⟩

/-- The lowest lower bound is the lower bound of one of the intervals. -/
theorem lowerBound_mem {r : Range} {lo : Bound} (h : r.lowerBound = some lo) :
    lo.version ∈ r.boundVersions := by
  rcases foldBounds_mem (fun a x => by rw [lowerOf_eq]; split <;> simp) h with h' | h'
  · cases h'
  · obtain ⟨i, hi, hl⟩ : ∃ i ∈ r.intervals, i.lower = some lo := by simpa using h'
    exact lower_mem_boundVersions hi hl

theorem upperBound_mem {r : Range} {hi : Bound} (h : r.upperBound = some hi) :
    hi.version ∈ r.boundVersions := by
  rcases foldBounds_mem (fun a x => by rw [upperOf_eq]; split <;> simp) h with h' | h'
  · cases h'
  · obtain ⟨i, hi, hu⟩ : ∃ i ∈ r.intervals, i.upper = some hi := by simpa using h'
    exact upper_mem_boundVersions hi hu

/-- A range with a lowest lower bound has a lower bound in every interval. -/
theorem exists_lower {r : Range} {lo : Bound} (h : r.lowerBound = some lo) {i : Interval}
    (hi : i ∈ r.intervals) : ∃ l, i.lower = some l :=
  Option.isSome_iff_exists.1 (foldBounds_isSome h i.lower (List.mem_map_of_mem hi))

/-- A range with a highest upper bound has an upper bound in every interval. -/
theorem exists_upper {r : Range} {hi : Bound} (h : r.upperBound = some hi) {i : Interval}
    (hmem : i ∈ r.intervals) : ∃ u, i.upper = some u :=
  Option.isSome_iff_exists.1 (foldBounds_isSome h i.upper (List.mem_map_of_mem hmem))

/-- Among unflipped bounds, the lowest lower bound is at or below every lower bound. -/
theorem lowerBound_le {r : Range} {lo : Bound} (h : r.lowerBound = some lo)
    (hS : Unflipped r.boundVersions) {i : Interval} (hi : i ∈ r.intervals) {l : Bound}
    (hl : l ∈ i.lower) : lo.version.le l.version = true := by
  have hbelow := foldBounds_below lowerOf_eq le_refl (fun _ _ => le_of_not_le)
    (S := r.boundVersions) (fun u hu v hv w hw => hS.le_trans hu hv hw) (o := none)
    (by simp) (by
      intro ob hob x hx
      obtain ⟨i', hi', rfl⟩ := List.mem_map.1 hob
      exact lower_mem_boundVersions hi' hx) h
  exact hbelow.2 i.lower (List.mem_map_of_mem hi) l hl

/-- Among unflipped bounds, the highest upper bound is at or above every upper bound. -/
theorem le_upperBound {r : Range} {hi : Bound} (h : r.upperBound = some hi)
    (hS : Unflipped r.boundVersions) {i : Interval} (hmem : i ∈ r.intervals) {u : Bound}
    (hu : u ∈ i.upper) : u.version.le hi.version = true := by
  have hbelow := foldBounds_below (R := fun v w => w.le v) upperOf_eq le_refl
    (fun _ _ => le_of_not_le)
    (S := r.boundVersions) (fun u hu v hv w hw huv hvw => hS.le_trans hw hv hu hvw huv)
    (o := none) (by simp) (by
      intro ob hob x hx
      obtain ⟨i', hi', rfl⟩ := List.mem_map.1 hob
      exact upper_mem_boundVersions hi' hx) h
  exact hbelow.2 i.upper (List.mem_map_of_mem hmem) u hu

/-! ### Identical bounds pin one version -/

theorem Interval.le_of_contains {i : Interval} {v : Version} (h : i.contains v = true) :
    (∀ l ∈ i.lower, l.version.le v = true) ∧ ∀ u ∈ i.upper, v.le u.version = true := by
  constructor
  · intro l hl
    simp only [Interval.contains, Option.mem_def.1 hl, Bool.and_eq_true] at h
    by_cases hincl : l.inclusive = true
    · simpa [hincl] using h.1
    · exact le_of_lt (by simpa [hincl] using h.1)
  · intro u hu
    simp only [Interval.contains, Option.mem_def.1 hu, Bool.and_eq_true] at h
    by_cases hincl : u.inclusive = true
    · simpa [hincl] using h.2
    · exact le_of_lt (by simpa [hincl] using h.2)

theorem Interval.contains_of_inclusive {i : Interval} {v : Version} {l u : Bound}
    (hl : i.lower = some l) (hu : i.upper = some u) (hli : l.inclusive = true)
    (hui : u.inclusive = true) (hlv : l.version.le v = true) (hvu : v.le u.version = true) :
    i.contains v = true := by
  simp [Interval.contains, hl, hu, hli, hui, hlv, hvu]

theorem hasIdenticalBounds_iff (r : Range) :
    r.hasIdenticalBounds = true ↔
      ∃ lo hi, r.lowerBound = some lo ∧ r.upperBound = some hi ∧ lo.same hi = true := by
  unfold hasIdenticalBounds
  split <;> simp_all

theorem Bound.same_iff (a b : Bound) :
    a.same b = true ↔ a.version.itemList = b.version.itemList ∧ a.inclusive = b.inclusive := by
  simp [Bound.same, equiv_iff]

/-- Comparing with a version is comparing with any version of the same items. -/
theorem le_congr_right {v w w' : Version} (h : w.itemList = w'.itemList) :
    v.le w = v.le w' := by
  simp only [le, compare_congr_right v h]

theorem le_congr_left {v v' w : Version} (h : v.itemList = v'.itemList) :
    v.le w = v'.le w := by
  simp only [le, compare_congr_left h]

section Identical

variable {r : Range} {lo hi : Bound}

/-- **Every version a range with identical bounds holds is equal to the bound**, when no two of
the versions involved are flipped: it sits above some lower bound, hence above the lowest, and
below some upper bound, hence below the highest, which is the lowest again. -/
theorem equiv_of_contains (hlo : r.lowerBound = some lo) (hhi : r.upperBound = some hi)
    (hsame : lo.same hi = true) {w : Version} (hS : Unflipped (w :: r.boundVersions))
    (hw : r.contains w = true) : w.equiv lo.version = true := by
  have hS' : Unflipped r.boundVersions := hS.sublist fun x hx => List.mem_cons_of_mem _ hx
  obtain ⟨i, hi_mem, hiw⟩ := List.any_eq_true.1 hw
  obtain ⟨l, hl⟩ := exists_lower hlo hi_mem
  obtain ⟨u, hu⟩ := exists_upper hhi hi_mem
  have hlw : l.version.le w = true := (Interval.le_of_contains hiw).1 l hl
  have hwu : w.le u.version = true := (Interval.le_of_contains hiw).2 u hu
  -- the chain lo ≤ l ≤ w ≤ u ≤ hi, among versions of the range and `w`
  have hmem : ∀ v ∈ r.boundVersions, v ∈ w :: r.boundVersions := fun v hv => List.mem_cons_of_mem _ hv
  have hlo_mem := lowerBound_mem hlo
  have hhi_mem := upperBound_mem hhi
  have hlow : lo.version.le w = true :=
    hS.le_trans (hmem _ hlo_mem) (hmem _ (lower_mem_boundVersions hi_mem hl)) List.mem_cons_self
      (lowerBound_le hlo hS' hi_mem hl) hlw
  have hhigh : w.le hi.version = true :=
    hS.le_trans List.mem_cons_self (hmem _ (upper_mem_boundVersions hi_mem hu)) (hmem _ hhi_mem)
      hwu (le_upperBound hhi hS' hi_mem hu)
  have hitems := ((Bound.same_iff lo hi).1 hsame).1
  rw [← le_congr_right hitems] at hhigh
  exact equiv_of_le_of_le hhigh hlow

/-- Squeezed between the lowest lower and the highest upper bound, which are equal, every bound
of a read range is equal to them. -/
theorem bounds_equiv_of_identical {t : String} (hr : Range.parse t = .ok r)
    (hlo : r.lowerBound = some lo) (hhi : r.upperBound = some hi) (hsame : lo.same hi = true)
    (hS : Unflipped r.boundVersions) {i : Interval} (hi_mem : i ∈ r.intervals) :
    ∃ l u, i.lower = some l ∧ i.upper = some u ∧
      l.version.itemList = lo.version.itemList ∧ u.version.itemList = lo.version.itemList := by
  obtain ⟨l, hl⟩ := exists_lower hlo hi_mem
  obtain ⟨u, hu⟩ := exists_upper hhi hi_mem
  have hlu : l.version.le u.version = true := parse_ordered hr i hi_mem l hl u hu
  have hlo_mem := lowerBound_mem hlo
  have hhi_mem := upperBound_mem hhi
  have hl_mem := lower_mem_boundVersions hi_mem hl
  have hu_mem := upper_mem_boundVersions hi_mem hu
  have hitems := ((Bound.same_iff lo hi).1 hsame).1
  -- lo ≤ l ≤ u ≤ hi, and hi has the items of lo
  have hlol : lo.version.le l.version = true := lowerBound_le hlo hS hi_mem hl
  have huhi : u.version.le hi.version = true := le_upperBound hhi hS hi_mem hu
  have hlhi : l.version.le lo.version = true := by
    rw [le_congr_right hitems]
    exact hS.le_trans hl_mem hu_mem hhi_mem hlu huhi
  have huhi' : u.version.le lo.version = true := by
    rw [le_congr_right hitems]
    exact huhi
  have hlou : lo.version.le u.version = true := hS.le_trans hlo_mem hl_mem hu_mem hlol hlu
  exact ⟨l, u, hl, hu, (equiv_iff _ _).1 (equiv_of_le_of_le hlhi hlol),
    (equiv_iff _ _).1 (equiv_of_le_of_le huhi' hlou)⟩

/-- **A read range with inclusive identical bounds holds every version equal to the bound**:
all bounds are equal to it, so both folds stay at the first interval, whose bounds are then the
common inclusive bound. -/
theorem contains_of_equiv {t : String} (hr : Range.parse t = .ok r)
    (hlo : r.lowerBound = some lo) (hhi : r.upperBound = some hi) (hsame : lo.same hi = true)
    (hincl : lo.inclusive = true) (hS : Unflipped r.boundVersions) {w : Version}
    (hw : w.equiv lo.version = true) : r.contains w = true := by
  have hequiv := fun i hi_mem => bounds_equiv_of_identical hr hlo hhi hsame hS (i := i) hi_mem
  obtain ⟨i₁, is, hcons⟩ : ∃ i₁ is, r.intervals = i₁ :: is := by
    cases hint : r.intervals with
    | nil => simp [lowerBound, hint, foldBounds] at hlo
    | cons i₁ is => exact ⟨i₁, is, rfl⟩
  obtain ⟨l₁, u₁, hl₁, hu₁, hl₁lo, hu₁lo⟩ := hequiv i₁ (by simp [hcons])
  -- the first interval's bounds are the lowest and the highest
  have hfirst_lo : lo = l₁ := by
    have hfold : r.lowerBound = some l₁ := by
      rw [lowerBound, hcons, List.map_cons, hl₁, foldBounds]
      refine foldBounds_eq_first lowerOf_eq l₁ fun ob hob => ?_
      obtain ⟨i, hi_mem, rfl⟩ := List.mem_map.1 hob
      obtain ⟨l, u, hl, -, hllo, -⟩ := hequiv i (by simp [hcons, hi_mem])
      exact ⟨l, hl, by rw [le_congr_right (hllo.trans hl₁lo.symm)]; exact le_refl _⟩
    rw [hfold] at hlo
    exact (Option.some.inj hlo).symm
  have hfirst_hi : hi = u₁ := by
    have hfold : r.upperBound = some u₁ := by
      rw [upperBound, hcons, List.map_cons, hu₁, foldBounds]
      refine foldBounds_eq_first (R := fun v w => w.le v) upperOf_eq u₁ fun ob hob => ?_
      obtain ⟨i, hi_mem, rfl⟩ := List.mem_map.1 hob
      obtain ⟨l, u, -, hu, -, hulo⟩ := hequiv i (by simp [hcons, hi_mem])
      refine ⟨u, hu, ?_⟩
      show u.version.le u₁.version = true
      rw [le_congr_left (hulo.trans hu₁lo.symm)]
      exact le_refl _
    rw [hfold] at hhi
    exact (Option.some.inj hhi).symm
  subst hfirst_lo hfirst_hi
  have hwl : w.itemList = lo.version.itemList := (equiv_iff _ _).1 hw
  have hincl_hi : hi.inclusive = true := by
    rw [← ((Bound.same_iff lo hi).1 hsame).2, hincl]
  have hcont : i₁.contains w = true := by
    refine Interval.contains_of_inclusive hl₁ hu₁ hincl hincl_hi ?_ ?_
    · rw [le_congr_right hwl]
      exact le_refl _
    · rw [le_congr_left (hwl.trans hu₁lo.symm)]
      exact le_refl _
  exact List.any_eq_true.2 ⟨i₁, by simp [hcons], hcont⟩

end Identical

/-- **A range with identical bounds holds the versions equal to its bound.** For a range read
from text whose lowest lower and highest upper bound are the same bound `b`, and a version `w`
such that no two of `w` and the bounds of the range are flipped: every version the range holds
is equal to `b`, and when `b` is inclusive the range holds exactly the versions equal to `b`. -/
theorem contains_iff_of_identicalBounds {t : String} {r : Range} {b : Bound}
    (hr : Range.parse t = .ok r) (hid : r.hasIdenticalBounds = true) (hb : r.lowerBound = some b)
    (w : Version) (hS : Unflipped (w :: r.boundVersions)) :
    (r.contains w = true → w.equiv b.version = true) ∧
      (b.inclusive = true → (r.contains w = true ↔ w.equiv b.version = true)) := by
  obtain ⟨lo, hi, hlo, hhi, hsame⟩ := (hasIdenticalBounds_iff r).1 hid
  rw [hb] at hlo
  cases hlo
  have hsound := fun hw => equiv_of_contains hb hhi hsame hS hw
  refine ⟨hsound, fun hincl => ⟨hsound, fun hw => ?_⟩⟩
  exact contains_of_equiv hr hb hhi hsame hincl
    (hS.sublist fun x hx => List.mem_cons_of_mem _ hx) hw

/-- The range `[1.0],[1]` writes one point twice; with the version `1-ga` it meets every
condition of `contains_iff_of_identicalBounds`. -/
theorem contains_iff_of_identicalBounds_twoWritings :
    Range.parse "[1.0],[1]" = .ok ⟨"[1.0],[1]",
      [⟨some ⟨⟨"1.0"⟩, true⟩, some ⟨⟨"1.0"⟩, true⟩⟩, ⟨some ⟨⟨"1"⟩, true⟩, some ⟨⟨"1"⟩, true⟩⟩]⟩ ∧
    Range.hasIdenticalBounds ⟨"[1.0],[1]",
      [⟨some ⟨⟨"1.0"⟩, true⟩, some ⟨⟨"1.0"⟩, true⟩⟩, ⟨some ⟨⟨"1"⟩, true⟩, some ⟨⟨"1"⟩, true⟩⟩]⟩ =
      true ∧
    Range.lowerBound ⟨"[1.0],[1]",
      [⟨some ⟨⟨"1.0"⟩, true⟩, some ⟨⟨"1.0"⟩, true⟩⟩, ⟨some ⟨⟨"1"⟩, true⟩, some ⟨⟨"1"⟩, true⟩⟩]⟩ =
      some ⟨⟨"1.0"⟩, true⟩ ∧
    Unflipped (⟨"1-ga"⟩ :: Range.boundVersions ⟨"[1.0],[1]",
      [⟨some ⟨⟨"1.0"⟩, true⟩, some ⟨⟨"1.0"⟩, true⟩⟩, ⟨some ⟨⟨"1"⟩, true⟩, some ⟨⟨"1"⟩, true⟩⟩]⟩) ∧
    ((Range.contains ⟨"[1.0],[1]",
        [⟨some ⟨⟨"1.0"⟩, true⟩, some ⟨⟨"1.0"⟩, true⟩⟩, ⟨some ⟨⟨"1"⟩, true⟩, some ⟨⟨"1"⟩, true⟩⟩]⟩
        ⟨"1-ga"⟩ = true → Version.equiv ⟨"1-ga"⟩ (Bound.version ⟨⟨"1.0"⟩, true⟩) = true) ∧
      (Bound.inclusive ⟨⟨"1.0"⟩, true⟩ = true → (Range.contains ⟨"[1.0],[1]",
        [⟨some ⟨⟨"1.0"⟩, true⟩, some ⟨⟨"1.0"⟩, true⟩⟩, ⟨some ⟨⟨"1"⟩, true⟩, some ⟨⟨"1"⟩, true⟩⟩]⟩
        ⟨"1-ga"⟩ = true ↔ Version.equiv ⟨"1-ga"⟩ (Bound.version ⟨⟨"1.0"⟩, true⟩) = true))) := by
  -- all five versions have the single item `1`
  have hitems : ∀ v ∈ ([⟨"1-ga"⟩, ⟨"1.0"⟩, ⟨"1.0"⟩, ⟨"1"⟩, ⟨"1"⟩] : List Version),
      v.itemList = [.number "1"] := by decide
  have hle : (⟨"1.0"⟩ : Version).le ⟨"1"⟩ = true := by
    rw [le_iff, (compare_eq_eq_iff _ _).2 ((hitems _ (by simp)).trans (hitems ⟨"1"⟩ (by simp)).symm)]
    decide
  have hparse : Range.parse "[1.0],[1]" = .ok ⟨"[1.0],[1]",
      [⟨some ⟨⟨"1.0"⟩, true⟩, some ⟨⟨"1.0"⟩, true⟩⟩, ⟨some ⟨⟨"1"⟩, true⟩, some ⟨⟨"1"⟩, true⟩⟩]⟩ :=
    rfl
  have hlo : Range.lowerBound ⟨"[1.0],[1]",
      [⟨some ⟨⟨"1.0"⟩, true⟩, some ⟨⟨"1.0"⟩, true⟩⟩, ⟨some ⟨⟨"1"⟩, true⟩, some ⟨⟨"1"⟩, true⟩⟩]⟩ =
      some ⟨⟨"1.0"⟩, true⟩ := by
    simp [lowerBound, foldBounds, lowerOf, hle]
  have hid : Range.hasIdenticalBounds ⟨"[1.0],[1]",
      [⟨some ⟨⟨"1.0"⟩, true⟩, some ⟨⟨"1.0"⟩, true⟩⟩, ⟨some ⟨⟨"1"⟩, true⟩, some ⟨⟨"1"⟩, true⟩⟩]⟩ =
      true := by
    have hhi : Range.upperBound ⟨"[1.0],[1]",
        [⟨some ⟨⟨"1.0"⟩, true⟩, some ⟨⟨"1.0"⟩, true⟩⟩, ⟨some ⟨⟨"1"⟩, true⟩, some ⟨⟨"1"⟩, true⟩⟩]⟩ =
        some ⟨⟨"1.0"⟩, true⟩ := by
      have hle' : (⟨"1"⟩ : Version).le ⟨"1.0"⟩ = true := by
        rw [le_iff, (compare_eq_eq_iff _ _).2
          ((hitems ⟨"1"⟩ (by simp)).trans (hitems ⟨"1.0"⟩ (by simp)).symm)]
        decide
      simp [upperBound, foldBounds, upperOf, hle']
    exact (hasIdenticalBounds_iff _).2 ⟨_, _, hlo, hhi, (Bound.same_iff _ _).2 ⟨rfl, rfl⟩⟩
  have hS : Unflipped (⟨"1-ga"⟩ :: Range.boundVersions ⟨"[1.0],[1]",
      [⟨some ⟨⟨"1.0"⟩, true⟩, some ⟨⟨"1.0"⟩, true⟩⟩, ⟨some ⟨⟨"1"⟩, true⟩, some ⟨⟨"1"⟩, true⟩⟩]⟩) :=
    fun x hx y hy => not_flipped_of_itemList_eq ((hitems x hx).trans (hitems y hy).symm)
  exact ⟨hparse, hid, hlo, hS, contains_iff_of_identicalBounds hparse hid hlo ⟨"1-ga"⟩ hS⟩

/-- **A range with exclusive identical bounds may hold nothing**: `(1,1)` has the identical
bounds `(1` and `1)`, yet it does not hold `1`, the one version equal to them. -/
theorem exclusivePoint_contains_nothing :
    ∃ r b, Range.parse "(1,1)" = .ok r ∧ r.hasIdenticalBounds = true ∧ r.lowerBound = some b ∧
      ¬ (r.contains ⟨"1"⟩ = true ↔ (⟨"1"⟩ : Version).equiv b.version = true) := by
  have hcmp : (⟨"1"⟩ : Version).compare ⟨"1"⟩ = .eq := (compare_eq_eq_iff _ _).2 rfl
  -- reading `(1,1)` compares its two bounds, which `decide` does not evaluate: read it in steps
  have hparse : Range.parse "(1,1)" =
      .ok ⟨"(1,1)", [⟨some ⟨⟨"1"⟩, false⟩, some ⟨⟨"1"⟩, false⟩⟩]⟩ := by
    have htrim : Text.trimChars ['(', '1', ',', '1', ')'] = ['(', '1', ',', '1', ')'] := by decide
    have hsplit : splitInterval ['(', '1', ',', '1', ')'] = some (['1', ',', '1'], ')', []) := by
      decide
    have hsides : ['1', ',', '1'].splitOn ',' = [['1'], ['1']] := by decide
    have hbound : sideBound ['1'] false = some ⟨⟨"1"⟩, false⟩ := by decide
    have htext : String.ofList ['(', '1', ',', '1', ')'] = "(1,1)" := by decide
    have hjoint : skipJoint [] = [] := by decide
    simp [Range.parse, htrim, intervalsFrom, isOpening, hsplit, Interval.parse, hsides, hbound,
      hcmp, hjoint, htext]
    rfl
  refine ⟨_, ⟨⟨"1"⟩, false⟩, hparse, ?_, rfl, ?_⟩
  · exact (hasIdenticalBounds_iff _).2 ⟨_, _, rfl, rfl, (Bound.same_iff _ _).2 ⟨rfl, rfl⟩⟩
  · simp [contains, Interval.contains, lt, equiv, hcmp]

end PinAudit.Range
