import PinAudit.Report.Volatile

/-!
# What masking a report changes

`Json.Value.maskVolatile` replaces the parts of a report that change from run to run. Here is
which parts those are, for every value whatever, in terms of the positions in it. A position is
named by a path of keys and indices (`Json.Value.get?`, a key naming the first field with it),
and what stands at a position, its contents left out, is its outline (`Json.Value.outline`: a
scalar itself, an array's length, an object's keys in order).

* At every position whose path goes through no time field and is not the tool's version of a
  report, the masked value has the outline of the value (`Value.outline_get?_maskVolatile`).
* A time field at such a position holds `"__TIMESTAMP__"` once masked
  (`Value.get?_maskVolatile_timeField`), whatever it held.
* The tool's version of a report (`Value.IsEnvelope`: the four report fields at the top and a
  tool with a version) holds `"__VERSION__"` once masked (`Value.get?_maskVolatile_version`).
* Masking twice masks once (`Value.maskVolatile_maskVolatile`).

Masking is taken in its two steps: the version is settled at the top (`Value.maskToolVersion`)
before the time fields are masked at every depth (`Value.maskTimes`). Both rewrite the fields
of an object one by one and keep their keys (`lookup_map_of_fst`); the time pass masks every
value it finds off the time fields (`Value.get?_maskTimes`), and the two steps commute.

Main statement: `Value.maskVolatile_laws`.
-/

namespace PinAudit.Json

/-! ### Positions in a value -/

/-- One step into a value: the field of an object with a key, or the item of an array at an
index. -/
inductive Step where
  | key (k : String)
  | index (i : Nat)
  deriving DecidableEq, Repr

namespace Value

/-- The value one step below: an object's first field with the key, or an array's item at the
index. -/
def child? (v : Value) : Step → Option Value
  | .key k => v.field? k
  | .index i => v.array?.bind fun xs => xs[i]?

/-- **The value at a path**, when the path leads somewhere. -/
def get? (v : Value) : List Step → Option Value
  | [] => some v
  | s :: p => (v.child? s).bind fun w => w.get? p

/-- **A value without its contents**: a scalar as it is, an array with its items blanked, an
object with its keys in order and its values blanked. -/
def outline : Value → Value
  | .arr xs => .arr (xs.map fun _ => .null)
  | .obj fs => .obj (fs.map fun kv => (kv.1, .null))
  | v => v

@[simp] theorem get?_nil (v : Value) : v.get? [] = some v := rfl

@[simp] theorem get?_cons (v : Value) (s : Step) (p : List Step) :
    v.get? (s :: p) = (v.child? s).bind fun w => w.get? p := rfl

@[simp] theorem child?_obj_key (fs : List (String × Value)) (k : String) :
    (Value.obj fs).child? (.key k) = fs.lookup k := rfl

@[simp] theorem child?_arr_index (xs : List Value) (i : Nat) :
    (Value.arr xs).child? (.index i) = xs[i]? := rfl

@[simp] theorem child?_obj_index (fs : List (String × Value)) (i : Nat) :
    (Value.obj fs).child? (.index i) = none := rfl

@[simp] theorem child?_arr_key (xs : List Value) (k : String) :
    (Value.arr xs).child? (.key k) = none := rfl

/-- A path is followed one part after the other. -/
theorem get?_append (v : Value) (p q : List Step) :
    v.get? (p ++ q) = (v.get? p).bind fun w => w.get? q := by
  induction p generalizing v with
  | nil => rfl
  | cons s p ih => simp [ih, Option.bind_assoc]

end Value

/-! ### Fields rewritten with their keys kept -/

section KeptKeys

variable (f : String × Value → String × Value) (hf : ∀ kv, (f kv).1 = kv.1)
include hf

/-- A look-up in fields rewritten one by one with their keys kept finds the rewritten field. -/
theorem lookup_map_of_fst (fs : List (String × Value)) (k : String) :
    (fs.map f).lookup k = (fs.lookup k).map fun v => (f (k, v)).2 := by
  induction fs with
  | nil => rfl
  | cons kv fs ih =>
    obtain ⟨k', v'⟩ := kv
    have hk : f (k', v') = (k', (f (k', v')).2) := Prod.ext (hf _) rfl
    rw [List.map_cons, hk]
    by_cases h : k = k'
    · subst h
      simp
    · simp [List.lookup_cons, beq_false_of_ne h, ih]

/-- Fields rewritten with their keys kept have the same outline. -/
theorem map_outline_of_fst (fs : List (String × Value)) :
    (fs.map f).map (fun kv => (kv.1, Value.null)) = fs.map fun kv => (kv.1, Value.null) := by
  simp only [List.map_map]
  exact List.map_congr_left fun kv _ => by simp [hf kv]

end KeptKeys

/-! ### The time fields -/

/-- A path **avoids the time fields** when none of its steps is a time field's key. -/
def AvoidsTimes (p : List Step) : Prop := ∀ k ∈ timeFields, Step.key k ∉ p

theorem AvoidsTimes.tail {s : Step} {p : List Step} (h : AvoidsTimes (s :: p)) :
    AvoidsTimes p :=
  fun k hk hp => h k hk (List.mem_cons_of_mem s hp)

theorem AvoidsTimes.head {s : Step} {p : List Step} (h : AvoidsTimes (s :: p)) :
    ∀ k ∈ timeFields, s ≠ .key k :=
  fun k hk hs => h k hk (hs ▸ List.mem_cons_self)

namespace Value

/-- A field as the time pass leaves it: a time field's value replaced by the marker, any other
value masked. -/
def timeField (kv : String × Value) : String × Value :=
  (kv.1, if timeFields.contains kv.1 then .str timeMarker else kv.2.maskTimes)

theorem timeField_snd_of_mem {k : String} (hk : k ∈ timeFields) (v : Value) :
    (timeField (k, v)).2 = .str timeMarker := by
  simp [timeField, hk]

theorem timeField_snd_of_not_mem {k : String} (hk : k ∉ timeFields) (v : Value) :
    (timeField (k, v)).2 = v.maskTimes := by
  simp [timeField, hk]

theorem maskTimesIn_eq_map (xs : List Value) : maskTimesIn xs = xs.map maskTimes := by
  induction xs with
  | nil => rw [maskTimesIn, List.map_nil]
  | cons x xs ih => rw [maskTimesIn, ih, List.map_cons]

theorem maskTimesAt_eq_map (fs : List (String × Value)) : maskTimesAt fs = fs.map timeField := by
  induction fs with
  | nil => rw [maskTimesAt, List.map_nil]
  | cons kv fs ih =>
    obtain ⟨k, v⟩ := kv
    rw [maskTimesAt, ih, List.map_cons]
    rfl

@[simp] theorem maskTimes_arr (xs : List Value) :
    (Value.arr xs).maskTimes = .arr (xs.map maskTimes) := by
  rw [maskTimes, maskTimesIn_eq_map]

@[simp] theorem maskTimes_obj (fs : List (String × Value)) :
    (Value.obj fs).maskTimes = .obj (fs.map timeField) := by
  rw [maskTimes, maskTimesAt_eq_map]

@[simp] theorem maskTimes_str (s : String) : (Value.str s).maskTimes = .str s := rfl

/-- The time pass keeps every outline. -/
@[simp] theorem outline_maskTimes (v : Value) : v.maskTimes.outline = v.outline := by
  cases v with
  | arr xs =>
    rw [maskTimes_arr, outline, outline, List.map_map]
    rfl
  | obj fs =>
    simp only [maskTimes_obj, outline]
    rw [map_outline_of_fst timeField (fun _ => rfl)]
  | _ => rfl

/-- One step off the time fields finds the masked value. -/
theorem child?_maskTimes (v : Value) {s : Step} (hs : ∀ k ∈ timeFields, s ≠ .key k) :
    v.maskTimes.child? s = (v.child? s).map maskTimes := by
  cases v with
  | arr xs => cases s <;> simp
  | obj fs =>
    cases s with
    | index i => rfl
    | key k =>
      have hk : k ∉ timeFields := fun hk => hs k hk rfl
      rw [maskTimes_obj, child?_obj_key, child?_obj_key,
        lookup_map_of_fst timeField (fun _ => rfl)]
      simp only [timeField_snd_of_not_mem hk]
  | _ => cases s <;> rfl

/-- **Off the time fields, the time pass masks what it finds.** -/
theorem get?_maskTimes (v : Value) {p : List Step} (hp : AvoidsTimes p) :
    v.maskTimes.get? p = (v.get? p).map maskTimes := by
  induction p generalizing v with
  | nil => rfl
  | cons s p ih =>
    rw [get?_cons, get?_cons, child?_maskTimes v hp.head]
    cases v.child? s with
    | none => rfl
    | some w => exact ih w hp.tail

/-- **A time field off the other time fields holds the marker once masked.** -/
theorem get?_maskTimes_timeField (v : Value) {q : List Step} (hq : AvoidsTimes q) {k : String}
    (hk : k ∈ timeFields) :
    v.maskTimes.get? (q ++ [.key k]) = (v.get? (q ++ [.key k])).map fun _ => .str timeMarker := by
  rw [get?_append, get?_append, get?_maskTimes v hq]
  cases v.get? q with
  | none => rfl
  | some w =>
    cases w with
    | obj fs =>
      simp only [Option.map_some, Option.bind_some, maskTimes_obj, get?_cons, child?_obj_key,
        lookup_map_of_fst timeField (fun _ => rfl), timeField_snd_of_mem hk]
      cases fs.lookup k <;> rfl
    | arr xs => rfl
    | _ => rfl

mutual

/-- **The time pass is idempotent.** -/
theorem maskTimes_maskTimes : ∀ v : Value, v.maskTimes.maskTimes = v.maskTimes
  | .arr xs => by rw [maskTimes, maskTimes, maskTimesIn_maskTimesIn xs]
  | .obj fs => by rw [maskTimes, maskTimes, maskTimesAt_maskTimesAt fs]
  | .null => rfl
  | .bool _ => rfl
  | .num _ => rfl
  | .str _ => rfl

theorem maskTimesIn_maskTimesIn : ∀ xs : List Value, maskTimesIn (maskTimesIn xs) = maskTimesIn xs
  | [] => rfl
  | x :: xs => by rw [maskTimesIn, maskTimesIn, maskTimes_maskTimes x, maskTimesIn_maskTimesIn xs]

theorem maskTimesAt_maskTimesAt :
    ∀ fs : List (String × Value), maskTimesAt (maskTimesAt fs) = maskTimesAt fs
  | [] => rfl
  | (k, v) :: fs => by
    rw [maskTimesAt, maskTimesAt, maskTimesAt_maskTimesAt fs]
    by_cases hk : k ∈ timeFields
    · simp [hk]
    · simp [hk, maskTimes_maskTimes v]

end

/-! ### The tool's version -/

/-- A field of the tool as `maskVersion` leaves it: the version replaced by the marker. -/
def versionField (kv : String × Value) : String × Value :=
  if kv.1 == "version" then (kv.1, .str versionMarker) else kv

theorem versionField_fst (kv : String × Value) : (versionField kv).1 = kv.1 := by
  unfold versionField
  split <;> rfl

@[simp] theorem versionField_version (v : Value) :
    (versionField ("version", v)).2 = .str versionMarker := rfl

theorem versionField_of_ne {k : String} (hk : k ≠ "version") (v : Value) :
    versionField (k, v) = (k, v) := by
  simp [versionField, hk]

theorem maskVersion_obj (tool : List (String × Value)) :
    maskVersion (.obj tool) =
      if (tool.lookup "version").isSome then .obj (tool.map versionField) else .obj tool := rfl

/-- A value without a version is left as it is. -/
theorem maskVersion_of_get?_none {t : Value} (h : t.get? [.key "version"] = none) :
    maskVersion t = t := by
  cases t with
  | obj tool =>
    have hn : tool.lookup "version" = none := by simpa using h
    rw [maskVersion_obj, hn]
    rfl
  | _ => rfl

@[simp] theorem outline_maskVersion (t : Value) : (maskVersion t).outline = t.outline := by
  cases t with
  | obj tool =>
    rw [maskVersion_obj]
    split
    · simp only [outline]
      rw [map_outline_of_fst versionField versionField_fst]
    · rfl
  | _ => rfl

/-- Every position of a value but its version is kept by `maskVersion`. -/
theorem get?_maskVersion (t : Value) {s : Step} (hs : s ≠ .key "version") (p : List Step) :
    (maskVersion t).get? (s :: p) = t.get? (s :: p) := by
  cases t with
  | obj tool =>
    rw [maskVersion_obj]
    split
    · cases s with
      | index i => rfl
      | key k =>
        have hk : k ≠ "version" := fun h => hs (h ▸ rfl)
        rw [get?_cons, get?_cons, child?_obj_key, child?_obj_key,
          lookup_map_of_fst versionField versionField_fst]
        simp only [versionField_of_ne hk, Option.map_id']
    · rfl
  | _ => rfl

/-- A version is replaced by the marker. -/
theorem get?_maskVersion_version {t : Value} (h : (t.get? [.key "version"]).isSome) :
    (maskVersion t).get? [.key "version"] = some (.str versionMarker) := by
  cases t with
  | obj tool =>
    have hs : (tool.lookup "version").isSome := by simpa using h
    obtain ⟨v, hv⟩ := Option.isSome_iff_exists.1 hs
    rw [maskVersion_obj, if_pos hs, get?_cons, child?_obj_key,
      lookup_map_of_fst versionField versionField_fst, hv]
    rfl
  | arr xs => simp at h
  | _ => simp [get?, child?, field?] at h

theorem versionField_versionField (kv : String × Value) :
    versionField (versionField kv) = versionField kv := by
  by_cases h : kv.1 = "version" <;> simp [versionField, h]

theorem maskVersion_maskVersion (t : Value) : maskVersion (maskVersion t) = maskVersion t := by
  cases t with
  | obj tool =>
    rw [maskVersion_obj]
    split
    · rename_i hs
      have hs' : ((tool.map versionField).lookup "version").isSome := by
        rw [lookup_map_of_fst versionField versionField_fst, Option.isSome_map]
        exact hs
      rw [maskVersion_obj, if_pos hs', List.map_map]
      congr 2
      funext kv
      exact versionField_versionField kv
    · rename_i hs
      rw [maskVersion_obj, if_neg hs]
  | _ => rfl

/-- The version is no time field: masking one and the other commute field by field. -/
theorem versionField_timeField (kv : String × Value) :
    versionField (timeField kv) = timeField (versionField kv) := by
  obtain ⟨k, v⟩ := kv
  by_cases h : k = "version"
  · subst h
    simp [versionField, timeField, timeFields]
  · have ht : timeField (k, v) = (k, (timeField (k, v)).2) := rfl
    rw [versionField_of_ne h, ht, versionField_of_ne h]

/-- **The time pass and `maskVersion` commute.** -/
theorem maskVersion_maskTimes (t : Value) :
    maskVersion t.maskTimes = (maskVersion t).maskTimes := by
  cases t with
  | obj tool =>
    rw [maskTimes_obj, maskVersion_obj, maskVersion_obj,
      lookup_map_of_fst timeField (fun _ => rfl), Option.isSome_map]
    split
    · rw [maskTimes_obj, List.map_map, List.map_map]
      congr 2
      funext kv
      exact versionField_timeField kv
    · rw [maskTimes_obj]
  | _ => rfl

/-! ### The report test at the top -/

/-- The keys a report has at its top. -/
def envelopeKeys : List String := ["schema", "tool", "verdict", "findings"]

/-- The position of the tool's version in a report. -/
def versionPath : List Step := [.key "tool", .key "version"]

/-- **A value that reads as a report with a tool version**: it has the four report fields at
the top, and its tool is an object with a version. -/
def IsEnvelope (v : Value) : Prop :=
  (∀ k ∈ envelopeKeys, (v.get? [.key k]).isSome) ∧ (v.get? versionPath).isSome

theorem looksLikeReport_iff (fs : List (String × Value)) :
    looksLikeReport fs = true ↔ ∀ k ∈ envelopeKeys, ((Value.obj fs).get? [.key k]).isSome := by
  simp [looksLikeReport, envelopeKeys]

/-- A top field as the version step leaves it: the tool passed through `maskVersion`. -/
def toolField (kv : String × Value) : String × Value :=
  if kv.1 == "tool" then (kv.1, maskVersion kv.2) else kv

theorem toolField_fst (kv : String × Value) : (toolField kv).1 = kv.1 := by
  unfold toolField
  split <;> rfl

@[simp] theorem toolField_tool (v : Value) : (toolField ("tool", v)).2 = maskVersion v := rfl

theorem toolField_of_ne {k : String} (hk : k ≠ "tool") (v : Value) : toolField (k, v) = (k, v) := by
  simp [toolField, hk]

/-- **The first step of masking**: the tool's version of a value that looks like a report. -/
def maskToolVersion : Value → Value
  | .obj fields => .obj (if looksLikeReport fields then fields.map toolField else fields)
  | v => v

theorem maskToolVersion_obj (fs : List (String × Value)) :
    maskToolVersion (.obj fs) = .obj (if looksLikeReport fs then fs.map toolField else fs) := rfl

/-- Masking is the version step, then the time pass. -/
theorem maskVolatile_eq (v : Value) : v.maskVolatile = v.maskToolVersion.maskTimes := by
  cases v <;> rfl

/-- Rewriting fields with their keys kept keeps the report test. -/
theorem looksLikeReport_map (f : String × Value → String × Value) (hf : ∀ kv, (f kv).1 = kv.1)
    (fs : List (String × Value)) : looksLikeReport (fs.map f) = looksLikeReport fs := by
  simp [looksLikeReport, lookup_map_of_fst f hf]

theorem toolField_toolField (kv : String × Value) : toolField (toolField kv) = toolField kv := by
  obtain ⟨k, v⟩ := kv
  by_cases h : k = "tool"
  · subst h
    simp [toolField, maskVersion_maskVersion]
  · rw [toolField_of_ne h, toolField_of_ne h]

theorem maskToolVersion_maskToolVersion (v : Value) :
    v.maskToolVersion.maskToolVersion = v.maskToolVersion := by
  cases v with
  | obj fs =>
    rw [maskToolVersion_obj]
    by_cases hr : looksLikeReport fs = true
    · rw [if_pos hr, maskToolVersion_obj, looksLikeReport_map toolField toolField_fst, if_pos hr,
        List.map_map]
      congr 2
      funext kv
      exact toolField_toolField kv
    · rw [if_neg hr, maskToolVersion_obj, if_neg hr]
  | _ => rfl

/-- The tool is no time field: the two steps commute field by field. -/
theorem toolField_timeField (kv : String × Value) :
    toolField (timeField kv) = timeField (toolField kv) := by
  obtain ⟨k, v⟩ := kv
  by_cases h : k = "tool"
  · subst h
    simp [toolField, timeField, timeFields, maskVersion_maskTimes]
  · have ht : timeField (k, v) = (k, (timeField (k, v)).2) := rfl
    rw [toolField_of_ne h, ht, toolField_of_ne h]

/-- **The two steps of masking commute.** -/
theorem maskToolVersion_maskTimes (v : Value) :
    v.maskTimes.maskToolVersion = v.maskToolVersion.maskTimes := by
  cases v with
  | obj fs =>
    rw [maskTimes_obj, maskToolVersion_obj, maskToolVersion_obj,
      looksLikeReport_map timeField (fun _ => rfl)]
    split
    · rw [maskTimes_obj, List.map_map, List.map_map]
      congr 2
      funext kv
      exact toolField_timeField kv
    · rw [maskTimes_obj]
  | arr xs => rfl
  | _ => rfl

/-- Below the tool, `maskVersion` changes an outline only at the version of a tool that has
one. -/
theorem outline_get?_maskVersion (t : Value) {p : List Step}
    (hp : ¬ ((t.get? [.key "version"]).isSome ∧ [Step.key "version"] <+: p)) :
    ((maskVersion t).get? p).map outline = (t.get? p).map outline := by
  cases p with
  | nil => simp
  | cons s p =>
    by_cases hs : s = .key "version"
    · subst hs
      by_cases hv : (t.get? [.key "version"]).isSome
      · exact absurd ⟨hv, ⟨p, rfl⟩⟩ hp
      · rw [maskVersion_of_get?_none (Option.not_isSome_iff_eq_none.1 hv)]
    · rw [get?_maskVersion t hs]

/-- The version step keeps the outline of every position but the tool's version of a report. -/
theorem outline_get?_maskToolVersion (v : Value) {p : List Step}
    (hp : ¬ (v.IsEnvelope ∧ versionPath <+: p)) :
    (v.maskToolVersion.get? p).map outline = (v.get? p).map outline := by
  cases v with
  | obj fs =>
    rw [maskToolVersion_obj]
    split
    · rename_i hr
      cases p with
      | nil =>
        simp only [get?_nil, Option.map_some, outline]
        rw [map_outline_of_fst toolField toolField_fst]
      | cons s p =>
        cases s with
        | index i => rfl
        | key k =>
          rw [get?_cons, get?_cons, child?_obj_key, child?_obj_key,
            lookup_map_of_fst toolField toolField_fst]
          by_cases hk : k = "tool"
          · subst hk
            -- below the tool, only the version may change, and only in a report
            cases ht : fs.lookup "tool" with
            | none => rfl
            | some t =>
              refine outline_get?_maskVersion t fun hpath => ?_
              obtain ⟨hv, r, hr'⟩ := hpath
              refine hp ⟨⟨(looksLikeReport_iff fs).1 hr, by simpa [versionPath, ht] using hv⟩, ?_⟩
              exact ⟨r, by rw [← hr']; rfl⟩
          · simp only [toolField_of_ne hk, Option.map_id']
    · rfl
  | _ => rfl

/-- In a report, the version step writes the marker at the tool's version. -/
theorem get?_maskToolVersion_version {v : Value} (hv : v.IsEnvelope) :
    v.maskToolVersion.get? versionPath = some (.str versionMarker) := by
  obtain ⟨hkeys, hver⟩ := hv
  cases v with
  | obj fs =>
    have hr : looksLikeReport fs = true := (looksLikeReport_iff fs).2 hkeys
    cases ht : fs.lookup "tool" with
    | none => simp [versionPath, ht] at hver
    | some t =>
      have hv' : (t.get? [.key "version"]).isSome := by simpa [versionPath, ht] using hver
      rw [maskToolVersion_obj, if_pos hr, versionPath, get?_cons, child?_obj_key,
        lookup_map_of_fst toolField toolField_fst, ht]
      exact get?_maskVersion_version hv'
  | arr xs => simp [versionPath] at hver
  | _ => simp [versionPath, get?, child?, field?] at hver

/-! ### Masking -/

/-- **Masking twice masks once.** -/
theorem maskVolatile_maskVolatile (v : Value) : v.maskVolatile.maskVolatile = v.maskVolatile := by
  rw [maskVolatile_eq, maskVolatile_eq, maskToolVersion_maskTimes, maskToolVersion_maskToolVersion,
    maskTimes_maskTimes]

/-- **Off the time fields and the version of a report, masking keeps every outline.** -/
theorem outline_get?_maskVolatile (v : Value) {p : List Step} (hp : AvoidsTimes p)
    (hv : ¬ (v.IsEnvelope ∧ versionPath <+: p)) :
    (v.maskVolatile.get? p).map outline = (v.get? p).map outline := by
  rw [maskVolatile_eq, get?_maskTimes _ hp, Option.map_map]
  calc (v.maskToolVersion.get? p).map (outline ∘ maskTimes)
      = (v.maskToolVersion.get? p).map outline := by
        congr 1
        funext w
        exact outline_maskTimes w
    _ = (v.get? p).map outline := outline_get?_maskToolVersion v hv

/-- Positions with the same outline are there or not alike. -/
theorem isSome_of_outline {a b : Option Value} (h : a.map outline = b.map outline) :
    a.isSome = b.isSome := by
  cases a <;> cases b <;> simp_all

/-- **A time field holds the marker once masked**, at every depth off the other time fields and
the version of a report. -/
theorem get?_maskVolatile_timeField (v : Value) {q : List Step} (hq : AvoidsTimes q)
    (hv : ¬ (v.IsEnvelope ∧ versionPath <+: q)) {k : String} (hk : k ∈ timeFields) :
    v.maskVolatile.get? (q ++ [.key k]) = (v.get? (q ++ [.key k])).map fun _ => .str timeMarker := by
  rw [maskVolatile_eq, get?_maskTimes_timeField _ hq hk]
  -- the version step keeps whether the field is there, the version being no time field
  have hv' : ¬ (v.IsEnvelope ∧ versionPath <+: q ++ [.key k]) := by
    rintro ⟨he, hpre⟩
    refine hv ⟨he, ?_⟩
    rcases (List.prefix_concat_iff).1 hpre with heq | hpre'
    · have hlast := congrArg List.getLast? heq
      simp only [versionPath, List.getLast?_cons_cons, List.getLast?_singleton,
        List.getLast?_append, Option.some_or, Option.some.injEq, Step.key.injEq] at hlast
      subst hlast
      simp [timeFields] at hk
    · exact hpre'
  have hsome := isSome_of_outline (outline_get?_maskToolVersion v hv')
  cases h₁ : v.maskToolVersion.get? (q ++ [.key k]) <;>
    cases h₂ : v.get? (q ++ [.key k]) <;> simp_all

/-- **The tool's version of a report holds the marker once masked.** -/
theorem get?_maskVolatile_version {v : Value} (hv : v.IsEnvelope) :
    v.maskVolatile.get? versionPath = some (.str versionMarker) := by
  have havoid : AvoidsTimes versionPath := by
    simp [AvoidsTimes, versionPath, timeFields]
  rw [maskVolatile_eq, get?_maskTimes _ havoid, get?_maskToolVersion_version hv]
  rfl

/-- **What masking changes.** Masking twice masks once. At every position whose path goes
through no time field and is not the tool's version of a report, the masked value has the
outline of the value: the same scalar, an array of the same length, an object with the same
keys in the same order. A time field at such a position holds `"__TIMESTAMP__"` once masked;
the tool's version of a report holds `"__VERSION__"`. -/
theorem maskVolatile_laws (v : Value) :
    v.maskVolatile.maskVolatile = v.maskVolatile ∧
    (∀ p, AvoidsTimes p → ¬ (v.IsEnvelope ∧ versionPath <+: p) →
      (v.maskVolatile.get? p).map outline = (v.get? p).map outline) ∧
    (∀ q k, AvoidsTimes q → ¬ (v.IsEnvelope ∧ versionPath <+: q) → k ∈ timeFields →
      v.maskVolatile.get? (q ++ [.key k]) =
        (v.get? (q ++ [.key k])).map fun _ => .str timeMarker) ∧
    (v.IsEnvelope → v.maskVolatile.get? versionPath = some (.str versionMarker)) :=
  ⟨maskVolatile_maskVolatile v, fun _ hp hv => outline_get?_maskVolatile v hp hv,
    fun _ _ hq hv hk => get?_maskVolatile_timeField v hq hv hk,
    fun hv => get?_maskVolatile_version hv⟩

/-- A report's value, masked: its version and its start time hold the markers, its findings
keep their outline, and masking again changes nothing. -/
theorem maskVolatile_laws_envelope :
    let v : Value := .obj [("schema", .str "pin-audit.report.v1"),
      ("tool", .obj [("name", .str "pin-audit"), ("version", .str "0.3.1")]),
      ("started_at", .str "2024-01-01T00:00:00Z"), ("verdict", .str "pass"),
      ("findings", .arr [.obj [("code", .str "k")]])]
    v.IsEnvelope ∧
    v.maskVolatile.get? versionPath = some (.str versionMarker) ∧
    v.maskVolatile.get? [.key "started_at"] = some (.str timeMarker) ∧
    (v.maskVolatile.get? [.key "findings"]).map outline = (v.get? [.key "findings"]).map outline ∧
    v.maskVolatile.maskVolatile = v.maskVolatile := by
  intro v
  have he : v.IsEnvelope := by
    simp [v, IsEnvelope, envelopeKeys, versionPath, get?, child?, field?, List.lookup_cons]
  have h := maskVolatile_laws v
  -- neither path is the version's or below it
  have hnil : ¬ (v.IsEnvelope ∧ versionPath <+: []) := by
    simp [versionPath]
  have hfindings : ¬ (v.IsEnvelope ∧ versionPath <+: [.key "findings"]) := by
    simp [versionPath]
  have htime := h.2.2.1 [] "started_at" (by simp [AvoidsTimes]) hnil (by simp [timeFields])
  refine ⟨he, h.2.2.2 he, ?_, h.2.1 _ (by simp [AvoidsTimes, timeFields]) hfindings, h.1⟩
  rw [List.nil_append] at htime
  rw [htime]
  rfl

end Value

end PinAudit.Json
