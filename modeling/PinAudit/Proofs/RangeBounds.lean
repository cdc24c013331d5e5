import PinAudit.Proofs.RangeGrammar

/-!
# The lowest and the highest bound of a range

`Range.lowerBound` folds the lower bounds of the intervals from the left, keeping the bound it
holds unless the next one is strictly lower, and gives up at the first interval without a lower
bound; `Range.upperBound` does the same for the upper bounds. Both are one fold,
`Range.foldBounds`, over the bounds at one end of the intervals, so everything here is said
once for an end `sel` and a preference `R` (`Version.le` for lower bounds, its converse for
upper ones) and then read at both ends.

* The fold gives nothing exactly when some interval is unbounded at that end
  (`Range.foldBounds_map_eq_none_iff`).
* When some bound is `R`-first, at or below every lower bound (at or above every upper one),
  the fold ends at the first such bound (`Range.foldBounds_eq_find?`). No transitivity is
  needed: a bound the fold holds and an `R`-first bound that are `R`-related both ways are
  equal versions, and equal versions compare alike with every other.
* Such a bound exists when no two of the bounds' versions are flipped, since the order is
  transitive among them (`Range.exists_firstAt`). It need not exist otherwise: the lower
  bounds of `[1.0.alpha,2],[1,2],[1-ga-5,2]` run in a circle, `1.0.alpha` below `1` below
  `1-ga-5` below `1.0.alpha`, and the fold ends at `1-ga-5`, above the lower bound `1`
  (`Range.lowerBound_of_circle`).

Main statement: `Range.extremeBounds_laws`.
-/

namespace PinAudit.Range

open Version

/-! ### The bounds at one end -/

/-- The bounds at one end of a range's intervals, in order: `sel` is `Interval.lower` or
`Interval.upper`. -/
def boundsAt (r : Range) (sel : Interval → Option Bound) : List Bound := r.intervals.filterMap sel

/-- The interval's bound at an end is **`R`-first** among the bounds at that end. -/
def firstAt (r : Range) (sel : Interval → Option Bound) (R : Version → Version → Bool)
    (i : Interval) : Bool :=
  (sel i).any fun b => (r.boundsAt sel).all fun c => R b.version c.version

/-- **The interval's lower version is at or below every interval's lower version.** -/
def lowestLower (r : Range) : Interval → Bool := r.firstAt Interval.lower Version.le

/-- **The interval's upper version is at or above every interval's upper version.** -/
def highestUpper (r : Range) : Interval → Bool := r.firstAt Interval.upper fun v w => w.le v

/-! ### Folds that give up at an unbounded end -/

section Fold

variable {pick : Bound → Bound → Bound}

theorem foldBounds_eq_none_of_mem :
    ∀ {o : Option Bound} {obs : List (Option Bound)}, none ∈ obs → foldBounds pick o obs = none
  | _, [], h => absurd h List.not_mem_nil
  | _, none :: _, _ => by rw [foldBounds]
  | o, some x :: obs, h => by
    have h' : none ∈ obs := (List.mem_cons.1 h).resolve_left (Option.some_ne_none x).symm
    cases o with
    | none => rw [foldBounds]; exact foldBounds_eq_none_of_mem h'
    | some a => rw [foldBounds]; exact foldBounds_eq_none_of_mem h'

theorem foldBounds_map_some_isSome :
    ∀ {o : Option Bound} {bs : List Bound}, (o.isSome ∨ bs ≠ []) →
      (foldBounds pick o (bs.map some)).isSome
  | o, [], h => by simpa [foldBounds] using h
  | none, x :: bs, _ => by
    rw [List.map_cons, foldBounds]
    exact foldBounds_map_some_isSome (.inl rfl)
  | some a, x :: bs, _ => by
    rw [List.map_cons, foldBounds]
    exact foldBounds_map_some_isSome (.inl rfl)

/-- **The fold ends at the first `R`-first bound**, when there is one. The bound the fold holds
before it is not `R`-first, so it is not `R`-related both ways to the first one and gives way
to it; from there on the fold keeps it. -/
theorem foldBounds_eq_find? {R : Version → Version → Bool}
    (hpick : ∀ a x, pick a x = if R a.version x.version then a else x)
    (hcongr : ∀ v w, R v w = true → R w v = true → ∀ u, R v u = R w u) (L : List Bound) :
    ∀ {o : Option Bound} {bs : List Bound}, (∀ b ∈ bs, b ∈ L) →
      (∀ a ∈ o, a ∈ L ∧ (L.all fun c => R a.version c.version) = false) →
      (∃ m ∈ bs, (L.all fun c => R m.version c.version) = true) →
      foldBounds pick o (bs.map some) = bs.find? fun b => L.all fun c => R b.version c.version
  | _, [], _, _, hex => by simp at hex
  | o, x :: bs, hbs, ho, hex => by
    have hxL : x ∈ L := hbs x List.mem_cons_self
    by_cases hx : (L.all fun c => R x.version c.version) = true
    · rw [List.find?_cons_of_pos (p := fun b : Bound => L.all fun c => R b.version c.version) hx]
      -- from the first `R`-first bound on, the fold keeps it
      have hkeep : ∀ ob ∈ bs.map some, ∃ y, ob = some y ∧ R x.version y.version = true := by
        intro ob hob
        obtain ⟨y, hy, rfl⟩ := List.mem_map.1 hob
        exact ⟨y, rfl, List.all_eq_true.1 hx y (hbs y (List.mem_cons_of_mem x hy))⟩
      cases o with
      | none =>
        rw [List.map_cons, foldBounds]
        exact foldBounds_eq_first hpick x hkeep
      | some a =>
        obtain ⟨haL, ha⟩ := ho a rfl
        have hax : R a.version x.version = false := by
          rcases Bool.eq_false_or_eq_true (R a.version x.version) with hax | hax
          · -- both ways related: `a` compares as `x` does, so it would be `R`-first too
            have hxa : R x.version a.version = true := List.all_eq_true.1 hx a haL
            have hsame : (fun c : Bound => R a.version c.version) = fun c => R x.version c.version :=
              funext fun c => hcongr _ _ hax hxa c.version
            rw [hsame, hx] at ha
            exact absurd ha (by decide)
          · exact hax
        rw [List.map_cons, foldBounds, hpick, if_neg (by simp [hax])]
        exact foldBounds_eq_first hpick x hkeep
    · rw [List.find?_cons_of_neg (p := fun b : Bound => L.all fun c => R b.version c.version) hx]
      have hex' : ∃ m ∈ bs, (L.all fun c => R m.version c.version) = true := by
        obtain ⟨m, hm, hmL⟩ := hex
        rcases List.mem_cons.1 hm with rfl | hm
        · exact absurd hmL hx
        · exact ⟨m, hm, hmL⟩
      have hbs' : ∀ b ∈ bs, b ∈ L := fun b hb => hbs b (List.mem_cons_of_mem x hb)
      have hx' : (L.all fun c => R x.version c.version) = false := by simpa using hx
      cases o with
      | none =>
        rw [List.map_cons, foldBounds]
        exact foldBounds_eq_find? hpick hcongr L hbs' (fun a ha => by cases ha; exact ⟨hxL, hx'⟩)
          hex'
      | some a =>
        -- the fold holds `a` or `x`, neither of them `R`-first
        have hnext : ∀ b ∈ some (pick a x), b ∈ L ∧ (L.all fun c => R b.version c.version) = false := by
          intro b hb
          cases hb
          rw [hpick]
          split
          · exact ho a rfl
          · exact ⟨hxL, hx'⟩
        rw [List.map_cons, foldBounds]
        exact foldBounds_eq_find? hpick hcongr L hbs' hnext hex'

end Fold

/-! ### Reading the fold at one end of the intervals -/

section End

variable {pick : Bound → Bound → Bound} (sel : Interval → Option Bound)

theorem map_eq_map_some_filterMap {is : List Interval} (hall : ∀ i ∈ is, (sel i).isSome) :
    is.map sel = (is.filterMap sel).map some := by
  induction is with
  | nil => rfl
  | cons i is ih =>
    obtain ⟨b, hb⟩ := Option.isSome_iff_exists.1 (hall i List.mem_cons_self)
    rw [List.map_cons, List.filterMap_cons, hb, ih fun j hj => hall j (List.mem_cons_of_mem i hj)]
    rfl

/-- The first interval whose bound passes a test gives the first bound that passes it. -/
theorem find?_bind_eq_find?_filterMap (p : Bound → Bool) (is : List Interval) :
    (is.find? fun i => (sel i).any p).bind sel = (is.filterMap sel).find? p := by
  induction is with
  | nil => rfl
  | cons i is ih =>
    cases hi : sel i with
    | none =>
      rw [List.find?_cons_of_neg (by simp [hi]), List.filterMap_cons, hi]
      exact ih
    | some b =>
      rw [List.filterMap_cons, hi]
      by_cases hb : p b = true
      · rw [List.find?_cons_of_pos (by simp [hi, hb]), List.find?_cons_of_pos hb]
        simp [hi]
      · rw [List.find?_cons_of_neg (by simp [hi, hb]), List.find?_cons_of_neg hb]
        exact ih

/-- **The fold at an end gives nothing exactly when some interval is unbounded there.** -/
theorem foldBounds_map_eq_none_iff {is : List Interval} (hne : is ≠ []) :
    foldBounds pick none (is.map sel) = none ↔ ∃ i ∈ is, sel i = none := by
  constructor
  · intro h
    by_contra hall
    have hall' : ∀ i ∈ is, (sel i).isSome := by
      intro i hi
      rcases hs : sel i with _ | b
      · exact absurd ⟨i, hi, hs⟩ hall
      · rfl
    have hbs : is.filterMap sel ≠ [] := by
      obtain ⟨i, hi⟩ := List.exists_mem_of_ne_nil is hne
      obtain ⟨b, hb⟩ := Option.isSome_iff_exists.1 (hall' i hi)
      exact List.ne_nil_of_mem (List.mem_filterMap.2 ⟨i, hi, hb⟩)
    have hsome : (foldBounds pick none ((is.filterMap sel).map some)).isSome :=
      foldBounds_map_some_isSome (.inr hbs)
    rw [← map_eq_map_some_filterMap sel hall', h] at hsome
    exact absurd hsome (by decide)
  · rintro ⟨i, hi, hnone⟩
    exact foldBounds_eq_none_of_mem (hnone ▸ List.mem_map_of_mem hi)

/-- **With every interval bounded at an end, the fold gives the bound of the first interval
whose bound there is `R`-first**, when one is. -/
theorem foldBounds_map_eq_find? {R : Version → Version → Bool}
    (hpick : ∀ a x, pick a x = if R a.version x.version then a else x)
    (hcongr : ∀ v w, R v w = true → R w v = true → ∀ u, R v u = R w u) (r : Range)
    (hall : ∀ i ∈ r.intervals, (sel i).isSome) (hex : ∃ i ∈ r.intervals, r.firstAt sel R i) :
    foldBounds pick none (r.intervals.map sel) = (r.intervals.find? (r.firstAt sel R)).bind sel := by
  unfold firstAt
  rw [find?_bind_eq_find?_filterMap, map_eq_map_some_filterMap sel hall]
  refine foldBounds_eq_find? hpick hcongr _ (fun b hb => hb) (fun a ha => by cases ha) ?_
  obtain ⟨i, hi, hfirst⟩ := hex
  obtain ⟨b, hb⟩ := Option.isSome_iff_exists.1 (hall i hi)
  simp only [firstAt, hb, Option.any_some] at hfirst
  exact ⟨b, List.mem_filterMap.2 ⟨i, hi, hb⟩, hfirst⟩

/-- **With every interval bounded at an end and the order transitive among the bounds there,
some interval's bound is `R`-first.** The fold's own bound is one. -/
theorem exists_firstAt {R : Version → Version → Bool}
    (hpick : ∀ a x, pick a x = if R a.version x.version then a else x)
    (hrefl : ∀ v, R v v = true) (htotal : ∀ v w, R v w = false → R w v = true) (r : Range)
    (hne : r.intervals ≠ []) (hall : ∀ i ∈ r.intervals, (sel i).isSome)
    (htrans : ∀ u ∈ (r.boundsAt sel).map Bound.version, ∀ v ∈ (r.boundsAt sel).map Bound.version,
      ∀ w ∈ (r.boundsAt sel).map Bound.version, R u v = true → R v w = true → R u w = true) :
    ∃ i ∈ r.intervals, r.firstAt sel R i := by
  have hbs : r.boundsAt sel ≠ [] := by
    obtain ⟨i, hi⟩ := List.exists_mem_of_ne_nil _ hne
    obtain ⟨b, hb⟩ := Option.isSome_iff_exists.1 (hall i hi)
    exact List.ne_nil_of_mem (List.mem_filterMap.2 ⟨i, hi, hb⟩)
  have hsome : (foldBounds pick none ((r.boundsAt sel).map some)).isSome :=
    foldBounds_map_some_isSome (.inr hbs)
  obtain ⟨m, hm⟩ := Option.isSome_iff_exists.1 hsome
  -- the fold ends at one of the bounds, and below (or above) all of them
  have hmem : some m ∈ (r.boundsAt sel).map some := by
    rcases foldBounds_mem (fun a x => by rw [hpick]; split <;> simp) hm with h | h
    · cases h
    · exact h
  have hbelow := foldBounds_below hpick hrefl htotal htrans (o := none) (by simp)
    (fun ob hob x hx => by
      obtain ⟨y, hy, rfl⟩ := List.mem_map.1 hob
      cases hx
      exact List.mem_map_of_mem hy) hm
  have hmem' : m ∈ r.intervals.filterMap sel := by simpa [boundsAt] using hmem
  obtain ⟨i, hi, hsel⟩ := List.mem_filterMap.1 hmem'
  refine ⟨i, hi, ?_⟩
  simp only [firstAt, hsel, Option.any_some, List.all_eq_true]
  intro c hc
  exact hbelow.2 (some c) (List.mem_map_of_mem hc) c rfl

end End

/-! ### The lowest lower and the highest upper bound -/

theorem le_congr {v w : Version} (hvw : v.le w = true) (hwv : w.le v = true) (u : Version) :
    v.le u = w.le u :=
  le_congr_left ((equiv_iff v w).1 (equiv_of_le_of_le hvw hwv))

theorem ge_congr {v w : Version} (hvw : w.le v = true) (hwv : v.le w = true) (u : Version) :
    u.le v = u.le w :=
  le_congr_right ((equiv_iff v w).1 (equiv_of_le_of_le hwv hvw))

theorem intervals_ne_nil {t : String} {r : Range} (h : Range.parse t = .ok r) :
    r.intervals ≠ [] := by
  obtain ⟨is, hrt, rfl⟩ := (parse_eq_ok_iff t r).1 h
  exact hrt.ne_nil

/-- **The lowest and the highest bound of a range.** For every range read from a text: the
lowest lower bound is missing exactly when some interval has no lower bound; when every
interval has one and some interval's lower version is at or below all of them, it is the lower
bound of the first such interval; and such an interval exists when no two lower versions are
flipped. Likewise for the highest upper bound, with "at or above" for "at or below". -/
theorem extremeBounds_laws {t : String} {r : Range} (h : Range.parse t = .ok r) :
    (r.lowerBound = none ↔ ∃ i ∈ r.intervals, i.lower = none) ∧
    ((∀ i ∈ r.intervals, i.lower.isSome) → (∃ i ∈ r.intervals, r.lowestLower i) →
      r.lowerBound = (r.intervals.find? r.lowestLower).bind Interval.lower) ∧
    ((∀ i ∈ r.intervals, i.lower.isSome) → Unflipped ((r.boundsAt Interval.lower).map Bound.version) →
      ∃ i ∈ r.intervals, r.lowestLower i) ∧
    (r.upperBound = none ↔ ∃ i ∈ r.intervals, i.upper = none) ∧
    ((∀ i ∈ r.intervals, i.upper.isSome) → (∃ i ∈ r.intervals, r.highestUpper i) →
      r.upperBound = (r.intervals.find? r.highestUpper).bind Interval.upper) ∧
    ((∀ i ∈ r.intervals, i.upper.isSome) → Unflipped ((r.boundsAt Interval.upper).map Bound.version) →
      ∃ i ∈ r.intervals, r.highestUpper i) :=
  ⟨foldBounds_map_eq_none_iff _ (intervals_ne_nil h),
    fun hall hex => foldBounds_map_eq_find? _ lowerOf_eq (fun _ _ => le_congr) r hall hex,
    fun hall hS => exists_firstAt _ lowerOf_eq le_refl (fun _ _ => le_of_not_le) r
      (intervals_ne_nil h) hall fun _ hu _ hv _ hw => hS.le_trans hu hv hw,
    foldBounds_map_eq_none_iff _ (intervals_ne_nil h),
    fun hall hex => foldBounds_map_eq_find? _ (R := fun v w => w.le v) upperOf_eq (fun _ _ => ge_congr) r hall hex,
    fun hall hS => exists_firstAt _ (R := fun v w => w.le v) upperOf_eq le_refl (fun _ _ => le_of_not_le) r
      (intervals_ne_nil h) hall fun _ hu _ hv _ hw huv hvw => hS.le_trans hw hv hu hvw huv⟩

/-- The union `[1],(,2]` has an interval open below, so its lowest lower bound is missing. -/
theorem extremeBounds_laws_openBelow :
    ∃ r, Range.parse "[1],(,2]" = .ok r ∧ r.lowerBound = none := by
  have hparse : Range.parse "[1],(,2]" = .ok ⟨"[1],(,2]",
      [⟨some ⟨⟨"1"⟩, true⟩, some ⟨⟨"1"⟩, true⟩⟩, ⟨none, some ⟨⟨"2"⟩, true⟩⟩]⟩ := rfl
  exact ⟨_, hparse, (extremeBounds_laws hparse).1.2 ⟨⟨none, some ⟨⟨"2"⟩, true⟩⟩, by simp, rfl⟩⟩

/-- **The lowest lower bound need not be at or below every lower bound.** The lower bounds of
`[1.0.alpha,2],[1,2],[1-ga-5,2]` run in a circle: `1.0.alpha` is below `1`, `1` below `1-ga-5`
and `1-ga-5` below `1.0.alpha`, as `1` and `1.0.alpha` are flipped. So no interval's lower
version is at or below all of them, and the fold ends at `1-ga-5`, above the lower bound `1`. -/
theorem lowerBound_of_circle :
    ∃ r, Range.parse "[1.0.alpha,2],[1,2],[1-ga-5,2]" = .ok r ∧
      (∀ i ∈ r.intervals, i.lower.isSome) ∧ (∀ i ∈ r.intervals, r.lowestLower i = false) ∧
      r.lowerBound = some ⟨⟨"1-ga-5"⟩, true⟩ := by
  -- the items of the four versions, and the comparisons they give
  have i₁ : items "1.0.alpha" = [.number "1", .number "0", .qualifier "alpha"] := by decide
  have i₂ : items "1" = [.number "1"] := by decide
  have i₃ : items "1-ga-5" = [.number "1", .qualifier "", .number "5"] := by decide
  have i₄ : items "2" = [.number "2"] := by decide
  have c₁₂ : (⟨"1.0.alpha"⟩ : Version).compare ⟨"1"⟩ = .lt := by
    simp only [Version.compare, itemList, i₁, i₂, compareItems]; decide
  have c₂₃ : (⟨"1"⟩ : Version).compare ⟨"1-ga-5"⟩ = .lt := by
    simp only [Version.compare, itemList, i₂, i₃, compareItems]; decide
  have c₃₁ : (⟨"1-ga-5"⟩ : Version).compare ⟨"1.0.alpha"⟩ = .lt := by
    simp only [Version.compare, itemList, i₁, i₃, compareItems]; decide
  have c₁₃ : (⟨"1.0.alpha"⟩ : Version).compare ⟨"1-ga-5"⟩ = .gt := by
    rw [compare_swap, c₃₁]; rfl
  have c₂₁ : (⟨"1"⟩ : Version).compare ⟨"1.0.alpha"⟩ = .gt := by
    rw [compare_swap, c₁₂]; rfl
  have c₃₂ : (⟨"1-ga-5"⟩ : Version).compare ⟨"1"⟩ = .gt := by
    rw [compare_swap, c₂₃]; rfl
  have c₁₄ : (⟨"1.0.alpha"⟩ : Version).compare ⟨"2"⟩ = .lt := by
    simp only [Version.compare, itemList, i₁, i₄, compareItems]; decide
  have c₂₄ : (⟨"1"⟩ : Version).compare ⟨"2"⟩ = .lt := by
    simp only [Version.compare, itemList, i₂, i₄, compareItems]; decide
  have c₃₄ : (⟨"1-ga-5"⟩ : Version).compare ⟨"2"⟩ = .lt := by
    simp only [Version.compare, itemList, i₃, i₄, compareItems]; decide
  -- the three written intervals
  have w₁ : IntervalText ('[' :: "1.0.alpha".toList ++ ',' :: ['2'] ++ [']'])
      ⟨sideBound "1.0.alpha".toList ('[' == '['), sideBound ['2'] (']' == ']')⟩ :=
    IntervalText.sides rfl rfl (by simp [Inside, isClosing]) (by simp [Inside, isClosing])
      (by decide) (by decide) fun _ _ => by
      have h : String.ofList (Text.trimChars "1.0.alpha".toList) = "1.0.alpha" := by decide
      have h' : String.ofList (Text.trimChars ['2']) = "2" := by decide
      rw [h, h', c₁₄]
      decide
  have w₂ : IntervalText ('[' :: ['1'] ++ ',' :: ['2'] ++ [']'])
      ⟨sideBound ['1'] ('[' == '['), sideBound ['2'] (']' == ']')⟩ :=
    IntervalText.sides rfl rfl (by simp [Inside, isClosing]) (by simp [Inside, isClosing])
      (by decide) (by decide) fun _ _ => by
      have h : String.ofList (Text.trimChars ['1']) = "1" := by decide
      have h' : String.ofList (Text.trimChars ['2']) = "2" := by decide
      rw [h, h', c₂₄]
      decide
  have w₃ : IntervalText ('[' :: "1-ga-5".toList ++ ',' :: ['2'] ++ [']'])
      ⟨sideBound "1-ga-5".toList ('[' == '['), sideBound ['2'] (']' == ']')⟩ :=
    IntervalText.sides rfl rfl (by simp [Inside, isClosing]) (by simp [Inside, isClosing])
      (by decide) (by decide) fun _ _ => by
      have h : String.ofList (Text.trimChars "1-ga-5".toList) = "1-ga-5" := by decide
      have h' : String.ofList (Text.trimChars ['2']) = "2" := by decide
      rw [h, h', c₃₄]
      decide
  have hj : Joint ([] ++ [',']) := Joint.comma (by simp [AllBlank]) (by simp [AllBlank])
  have hrange := RangeText.cons w₁ hj (RangeText.cons w₂ hj (RangeText.last w₃ EndJoint.nil))
  have htrim : Text.trimChars "[1.0.alpha,2],[1,2],[1-ga-5,2]".toList =
      ('[' :: "1.0.alpha".toList ++ ',' :: ['2'] ++ [']']) ++ ([] ++ [',']) ++
        (('[' :: ['1'] ++ ',' :: ['2'] ++ [']']) ++ ([] ++ [',']) ++
          (('[' :: "1-ga-5".toList ++ ',' :: ['2'] ++ [']']) ++ [])) := by decide
  have hb₁ : sideBound "1.0.alpha".toList ('[' == '[') = some ⟨⟨"1.0.alpha"⟩, true⟩ := by decide
  have hb₂ : sideBound ['1'] ('[' == '[') = some ⟨⟨"1"⟩, true⟩ := by decide
  have hb₃ : sideBound "1-ga-5".toList ('[' == '[') = some ⟨⟨"1-ga-5"⟩, true⟩ := by decide
  have hb₄ : sideBound ['2'] (']' == ']') = some ⟨⟨"2"⟩, true⟩ := by decide
  rw [← htrim, hb₁, hb₂, hb₃, hb₄] at hrange
  refine ⟨_, (parse_eq_ok_iff _ _).2 ⟨_, hrange, rfl⟩, by simp, ?_, ?_⟩
  · simp [lowestLower, firstAt, boundsAt, Version.le, c₁₃, c₂₁, c₃₂]
  · simp [lowerBound, foldBounds, lowerOf, Version.le, c₁₂, c₁₃]
end PinAudit.Range
