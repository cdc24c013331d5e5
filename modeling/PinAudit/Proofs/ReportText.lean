import PinAudit.Report.Json
import PinAudit.Proofs.RecordRead
import PinAudit.Proofs.TimestampText

/-!
# The value of a report, and the tool's reader of it

A report is written as the value `Report.toJsonWith` builds, fields in declaration order, and
read back from the value a JSON reader holds for its text (`Value.canonical`): objects sorted by
key. This file says what that value is, and that the reader the tool runs in place of the serde
derive, `ReportJson.report`, reads it back.

What the readers need of a report (`Report.Readable`):
- the schema is this library's;
- both timestamps are ones RFC 3339 can write (`Timestamp.Valid`);
- the counts, and each finding's line, are unsigned 32-bit numbers;
- each finding's payload holds only integers the reader keeps as such (`Value.Integral`),
  and its objects have their keys in increasing order, as a reader keeps them
  (`Value.KeysSorted`).

The value declares the report's schema (`Report.declaredSchema_toJsonWith`), holds each
payload three levels down (`Report.depth_data_le`), and nests as deep whatever writes its times
(`Report.depth_integral_toJsonWith`). Each record is read from the object a reader holds for it
(`Json.readRecord_canonical`): its members come back with the values written, and each field's
reader reads its own value back (`tool_reads`, `location_reads`, `finding_reads`,
`summary_reads`, `report_reads`).
-/

namespace PinAudit

open Json

/-! ### Records read from the objects written for them -/

namespace Json

/-- **A record written as an object is read back** from the object a reader holds for it,
when each member passes its field's check and the fields read. -/
theorem readRecord_canonical {α : Type} {shape : Shape} {body : FieldReader α}
    {fs : List (String × Value)} {a : α}
    (hcheck : ∀ k v, (k, v) ∈ fs → ∀ check, shape.fields.lookup k = some check →
      check v.canonical = .ok ())
    (hbody : ∃ s, body shape (.entries (Value.canonicalMembers [] fs)) = .ok (a, s)) :
    Value.readRecord shape body (Value.obj fs).canonical = .ok a := by
  obtain ⟨s, hs⟩ := hbody
  refine readRecord_obj (checkEntries_ok shape _ fun p hp check hc => ?_) hs
  rcases Value.mem_canonicalMembers hp with hp | ⟨v, hv, hpv⟩
  · cases hp
  · rw [hpv]
    exact hcheck p.1 v hv check hc

section Fields

variable {α : Type} (name : String) (shape : Shape) {fs : List (String × Value)}
  (hnd : (fs.map Prod.fst).Nodup)
include hnd

/-- A field written with a value reads as the reader holds the value. -/
theorem field_canonical (absent : Absent α) (decode : Value → Except String α) {v : Value}
    {a : α} (hv : fs.lookup name = some v) (ha : decode v.canonical = .ok a) :
    field name absent decode shape (.entries (Value.canonicalMembers [] fs)) =
      .ok (a, .entries (Value.canonicalMembers [] fs)) :=
  field_entries name decode shape absent (by rw [Value.lookup_canonical_obj hnd, hv]; rfl) ha

/-- **An optional field** reads as what was written: absent, or present with a value read back. -/
theorem field_option (read : Value → Except String α) {o : Option α} {enc : α → Value}
    (hv : fs.lookup name = o.map enc)
    (hread : ∀ a ∈ o, Value.readOption read (enc a).canonical = .ok (some a)) :
    field name (.optional none) (Value.readOption read) shape
        (.entries (Value.canonicalMembers [] fs)) =
      .ok (o, .entries (Value.canonicalMembers [] fs)) := by
  cases o with
  | none =>
    exact field_optional name (Value.readOption read) shape none
      (by rw [Value.lookup_canonical_obj hnd, hv]; rfl)
  | some a => exact field_canonical name shape hnd _ _ hv (hread a rfl)

end Fields

/-- A field written or not, by whether a value is present. -/
theorem lookup_optionalField {β : Type} (key : String) (enc : β → Value) (o : Option β)
    (k : String) : (optionalField key enc o).lookup k = if k = key then o.map enc else none := by
  cases o with
  | none => simp [optionalField]
  | some b =>
    simp only [optionalField, Value.lookup_cons_ite, List.lookup_nil, Option.map_some]

theorem mem_optionalField {β : Type} {key : String} {enc : β → Value} {o : Option β}
    {p : String × Value} (h : p ∈ optionalField key enc o) : ∃ b ∈ o, p = (key, enc b) := by
  cases o with
  | none => cases h
  | some b =>
    rw [optionalField, List.mem_singleton] at h
    exact ⟨b, rfl, h⟩

theorem keys_optionalField_sublist {β : Type} (key : String) (enc : β → Value) (o : Option β) :
    ((optionalField key enc o).map Prod.fst).Sublist [key] := by
  cases o with
  | none => exact List.nil_sublist _
  | some b => exact List.Sublist.refl _

/-- A value read as optional when it is not `null`. -/
theorem readOption_of_ne_null {α : Type} (read : Value → Except String α) {v : Value} {a : α}
    (hv : v ≠ .null) (ha : read v = .ok a) : Value.readOption read v = .ok (some a) := by
  cases v with
  | null => exact absurd rfl hv
  | _ => simp only [Value.readOption, ha]; rfl

end Json

/-! ### Scalars -/

theorem readOption_str (s : String) :
    Value.readOption Value.readString (Value.str s).canonical = .ok (some s) :=
  rfl

theorem readU32_nat {n : Nat} (hn : n ≤ Value.maxU32) : Value.readU32 (.num (.nat n)) = .ok n := by
  show (if n ≤ Value.maxU32 then _ else _) = _
  rw [if_pos hn]

theorem severity_name (s : Severity) : ReportJson.severity (.str s.name) = .ok s := by
  cases s <;> rfl

theorem verdict_name (v : Verdict) : ReportJson.verdict (.str v.name) = .ok v := by
  cases v <;> rfl

theorem timestamp_render {t : Timestamp} (ht : t.Valid) :
    ReportJson.timestamp (.str t.render) = .ok t := by
  simp only [ReportJson.timestamp, Timestamp.parse_render ht]

theorem canonical_ofStrings (xs : List String) : (Value.ofStrings xs).canonical = Value.ofStrings xs := by
  induction xs with
  | nil => rfl
  | cons x xs ih =>
    simp only [Value.ofStrings, List.map_cons, Value.canonical, Value.canonicalItems] at ih ⊢
    injection ih with ih
    rw [ih]

theorem readList_strings (xs : List String) :
    Value.readList Value.readString (Value.ofStrings xs) = .ok xs := by
  induction xs with
  | nil => rfl
  | cons x xs ih =>
    simp only [Value.ofStrings, Value.readList, List.map_cons, List.mapM_cons] at ih ⊢
    rw [ih]
    rfl

theorem maxU32_le_maxU64 : Value.maxU32 ≤ maxU64 := by
  rw [maxU64_eq]
  decide

/-! ### Members read back -/

namespace Json

theorem membersIntegral_of_forall {fs : List (String × Value)} (h : ∀ p ∈ fs, p.2.Integral) :
    Value.MembersIntegral fs := by
  induction fs with
  | nil => trivial
  | cons p fs ih =>
    obtain ⟨k, v⟩ := p
    exact ⟨h (k, v) List.mem_cons_self, ih fun q hq => h q (List.mem_cons_of_mem _ hq)⟩

theorem itemsIntegral_of_forall {vs : List Value} (h : ∀ v ∈ vs, v.Integral) :
    Value.ItemsIntegral vs := by
  induction vs with
  | nil => trivial
  | cons v vs ih => exact ⟨h v List.mem_cons_self, ih fun w hw => h w (List.mem_cons_of_mem _ hw)⟩

/-- **A member read back**: its field's check reads its value as a reader holds it, its
numbers are integers the reader keeps, and it nests at most `bound` deep. -/
def MemberReads (shape : Shape) (bound : Nat) (p : String × Value) : Prop :=
  (∃ (β : Type) (read : Value → Except String β) (b : β),
    shape.fields.lookup p.1 = some (Shape.check read) ∧ read p.2.canonical = .ok b) ∧
  p.2.Integral ∧ p.2.depth ≤ bound

/-- **A record written as an object is read back from its members read back**; the object then
holds only integers the reader keeps, and nests one level deeper than its members. -/
theorem record_of_members {α : Type} {shape : Shape} {body : FieldReader α}
    {fs : List (String × Value)} {a : α} {bound : Nat}
    (hmem : ∀ p ∈ fs, MemberReads shape bound p)
    (hbody : ∃ s, body shape (.entries (Value.canonicalMembers [] fs)) = .ok (a, s)) :
    Value.readRecord shape body (Value.obj fs).canonical = .ok a ∧ (Value.obj fs).Integral ∧
      (Value.obj fs).depth ≤ bound + 1 := by
  refine ⟨readRecord_canonical (fun k v hkv check hc => ?_) hbody,
    membersIntegral_of_forall fun p hp => (hmem p hp).2.1, ?_⟩
  · obtain ⟨⟨β, read, b, hl, hread⟩, -, -⟩ := hmem (k, v) hkv
    rw [hl] at hc
    cases hc
    simp only [Shape.check, hread]
    rfl
  · have := membersDepth_le fun p hp => (hmem p hp).2.2
    simp only [Value.depth]
    omega

/-- A string member whose field's reader reads it. -/
theorem memberReads_str {β : Type} {read : Value → Except String β} {b : β} {shape : Shape}
    {bound : Nat} {k s : String} (hk : shape.fields.lookup k = some (Shape.check read))
    (hread : read (.str s) = .ok b) : MemberReads shape bound (k, .str s) :=
  ⟨⟨_, read, b, hk, hread⟩, trivial, Nat.zero_le _⟩

theorem memberReads_nat {shape : Shape} {bound : Nat} {k : String} {n : Nat}
    (hk : shape.fields.lookup k = some (Shape.check Value.readU32)) (hn : n ≤ Value.maxU32) :
    MemberReads shape bound (k, Value.ofNat n) :=
  ⟨⟨_, _, n, hk, readU32_nat hn⟩, Nat.le_trans hn maxU32_le_maxU64, Nat.zero_le _⟩

/-- The payload field: absent when the payload is `null`, else read back as it is. -/
theorem field_data (shape : Shape) {fs : List (String × Value)} (hnd : (fs.map Prod.fst).Nodup)
    {d : Value} (hd : d.KeysSorted) (hv : fs.lookup "data" = if d.isNull then none else some d) :
    field "data" (.fallback .null) ReportJson.payload shape
        (.entries (Value.canonicalMembers [] fs)) =
      .ok (d, .entries (Value.canonicalMembers [] fs)) := by
  by_cases hnull : d.isNull
  · obtain rfl : d = .null := by cases d <;> simp_all [Value.isNull]
    exact field_fallback "data" ReportJson.payload shape .null
      (by rw [Value.lookup_canonical_obj hnd, hv]; rfl)
  · rw [if_neg hnull] at hv
    exact field_canonical "data" shape hnd _ ReportJson.payload hv
      (by rw [Value.canonical_of_keysSorted d hd]; rfl)

theorem lookup_dataField (d : Value) (k : String) :
    (if d.isNull then [] else [("data", d)]).lookup k =
      if k = "data" then (if d.isNull then none else some d) else none := by
  by_cases hnull : d.isNull
  · simp [hnull]
  · simp only [hnull, Bool.false_eq_true, if_false, Value.lookup_cons_ite, List.lookup_nil]

theorem mem_dataField {d : Value} {p : String × Value}
    (h : p ∈ (if d.isNull then [] else [("data", d)])) : p = ("data", d) := by
  by_cases hnull : d.isNull
  · simp [hnull] at h
  · simpa [hnull] using h

theorem keys_dataField_sublist (d : Value) :
    ((if d.isNull then [] else [("data", d)]).map Prod.fst).Sublist ["data"] := by
  by_cases hnull : d.isNull <;> simp [hnull]

end Json

theorem integral_ofStrings (xs : List String) : (Value.ofStrings xs).Integral := by
  show Value.ItemsIntegral (xs.map Value.str)
  exact itemsIntegral_of_forall fun v hv => by
    obtain ⟨s, -, rfl⟩ := List.mem_map.1 hv
    trivial

theorem depth_ofStrings_le (xs : List String) : (Value.ofStrings xs).depth ≤ 1 := by
  have h : Value.itemsDepth (xs.map Value.str) ≤ 0 := itemsDepth_le fun v hv => by
    obtain ⟨s, -, rfl⟩ := List.mem_map.1 hv
    exact Nat.le_refl 0
  show Value.itemsDepth (xs.map Value.str) + 1 ≤ 1
  omega

/-! ### The records of a report -/

/-- **A finding its text carries back**: its line an unsigned 32-bit number, and its payload
made of integers the reader keeps as such and of objects with their keys in order. -/
structure Finding.Readable (f : Finding) : Prop where
  line_le : ∀ l ∈ f.location, ∀ n ∈ l.line, n ≤ Value.maxU32
  data_integral : f.data.Integral
  data_sorted : f.data.KeysSorted

/-- **A report its text carries back**, whatever the depth of its payloads. -/
structure Report.Readable (r : Report) : Prop where
  schema_eq : r.schema = reportSchema
  startedAt_valid : r.startedAt.Valid
  finishedAt_valid : r.finishedAt.Valid
  scanned_le : r.data.dependenciesScanned ≤ Value.maxU32
  checked_le : r.data.filesChecked ≤ Value.maxU32
  total_le : r.data.findingsTotal ≤ Value.maxU32
  findings_readable : ∀ f ∈ r.findings, f.Readable

/-! ### No record repeats a key -/

theorem Location.toJson_nodup (l : Location) {fs : List (String × Value)}
    (h : l.toJson = .obj fs) : (fs.map Prod.fst).Nodup := by
  unfold Location.toJson at h
  cases h
  rw [List.map_append]
  exact List.Nodup.sublist ((List.Sublist.refl _).append (keys_optionalField_sublist _ _ _))
    (by simp)

theorem Finding.toJson_nodup (f : Finding) {fs : List (String × Value)}
    (h : f.toJson = .obj fs) : (fs.map Prod.fst).Nodup := by
  unfold Finding.toJson at h
  cases h
  simp only [List.map_append]
  exact List.Nodup.sublist ((((List.Sublist.refl _).append
    (keys_optionalField_sublist _ _ _)).append (keys_optionalField_sublist _ _ _)).append
    (keys_optionalField_sublist _ _ _) |>.append (keys_dataField_sublist _)) (by simp)

theorem RunSummary.toJson_nodup (d : RunSummary) {fs : List (String × Value)}
    (h : d.toJson = .obj fs) : (fs.map Prod.fst).Nodup := by
  unfold RunSummary.toJson at h
  cases h
  rw [List.map_append]
  exact List.Nodup.sublist ((List.Sublist.refl _).append (keys_optionalField_sublist _ _ _))
    (by simp)

theorem Report.toJson_nodup (r : Report) (fmt : Timestamp → String) {fs : List (String × Value)}
    (h : r.toJsonWith fmt = .obj fs) : (fs.map Prod.fst).Nodup := by
  unfold Report.toJsonWith at h
  cases h
  simp

/-- The optional members of a finding's object, each written exactly when it is present. -/
theorem Finding.lookup_optional (f : Finding) {fs : List (String × Value)}
    (h : f.toJson = .obj fs) :
    fs.lookup "location" = f.location.map Location.toJson ∧
      fs.lookup "help" = f.help.map .str ∧ fs.lookup "fingerprint" = f.fingerprint.map .str ∧
      fs.lookup "data" = if f.data.isNull then none else some f.data := by
  unfold Finding.toJson at h
  cases h
  refine ⟨?_, ?_, ?_, ?_⟩ <;>
    simp [List.lookup_append, lookup_optionalField, lookup_dataField, Value.lookup_cons_ite]

/-- The tool's object, as a report writes it. -/
theorem tool_reads (t : ToolMeta) :
    ReportJson.tool (Value.obj [("name", .str t.name), ("version", .str t.version)]).canonical =
        .ok t ∧
      (Value.obj [("name", .str t.name), ("version", .str t.version)]).Integral ∧
      (Value.obj [("name", .str t.name), ("version", .str t.version)]).depth ≤ 1 := by
  have hnd : ([("name", Value.str t.name), ("version", .str t.version)].map Prod.fst).Nodup := by
    simp
  unfold ReportJson.tool
  apply record_of_members
  · intro p hp
    simp only [List.mem_cons, List.not_mem_nil, or_false] at hp
    rcases hp with rfl | rfl <;> exact memberReads_str rfl rfl
  · exact ⟨_, by
      simp only [FieldReader.bind_of_ok
          (field_canonical "name" _ hnd .required Value.readString rfl rfl),
        FieldReader.bind_of_ok (field_canonical "version" _ hnd .required Value.readString rfl rfl)]
      rfl⟩

/-- A location, with its line an unsigned 32-bit number. -/
theorem location_reads {l : Location} (hline : ∀ n ∈ l.line, n ≤ Value.maxU32) :
    ReportJson.location l.toJson.canonical = .ok l ∧ l.toJson.Integral ∧ l.toJson.depth ≤ 1 := by
  have hnd := l.toJson_nodup rfl
  have hline' : ∀ n ∈ l.line, Value.readOption Value.readU32 (Value.ofNat n).canonical =
      .ok (some n) := fun n hn =>
    readOption_of_ne_null _ (fun h => nomatch h) (readU32_nat (hline n hn))
  unfold ReportJson.location Location.toJson
  apply record_of_members
  · intro p hp
    rcases List.mem_append.1 hp with hp | hp
    · rw [List.mem_singleton] at hp
      subst hp
      exact ⟨⟨_, ReportJson.path, l.path, rfl, rfl⟩, trivial, Nat.zero_le _⟩
    · obtain ⟨n, hn, rfl⟩ := mem_optionalField hp
      exact ⟨⟨_, _, some n, rfl, hline' n hn⟩, Nat.le_trans (hline n hn) maxU32_le_maxU64,
        Nat.zero_le _⟩
  · exact ⟨_, by
      simp only [FieldReader.bind_of_ok
          (field_canonical "path" _ hnd .required ReportJson.path rfl rfl),
        FieldReader.bind_of_ok (field_option "line" _ hnd Value.readU32
          (by simp [lookup_optionalField, Value.lookup_cons_ite]) hline')]
      rfl⟩

/-- **A finding reads back from its text's value**; its object nests one level deeper than its
location and its payload. -/
theorem finding_reads {f : Finding} (hf : f.Readable) :
    ReportJson.finding f.toJson.canonical = .ok f ∧ f.toJson.Integral ∧
      f.toJson.depth ≤ max 1 f.data.depth + 1 := by
  have hnd := f.toJson_nodup rfl
  obtain ⟨hlocation, hhelp, hfingerprint, hdata⟩ := f.lookup_optional rfl
  -- a location is written as an object, so it never reads as absent
  have hloc : ∀ l ∈ f.location, Value.readOption ReportJson.location l.toJson.canonical =
      .ok (some l) := fun l hl =>
    readOption_of_ne_null _ (by unfold Location.toJson; exact fun h => nomatch h)
      (location_reads (hf.line_le l hl)).1
  unfold ReportJson.finding Finding.toJson
  apply record_of_members
  · intro p hp
    simp only [List.mem_append] at hp
    rcases hp with (((hp | hp) | hp) | hp) | hp
    · simp only [List.mem_cons, List.not_mem_nil, or_false] at hp
      rcases hp with rfl | rfl | rfl | rfl
      · exact memberReads_str rfl (severity_name _)
      all_goals exact memberReads_str rfl rfl
    · obtain ⟨l, hl, rfl⟩ := mem_optionalField hp
      have hread := location_reads (hf.line_le l hl)
      exact ⟨⟨_, _, some l, rfl, hloc l hl⟩, hread.2.1, Nat.le_trans hread.2.2 (le_max_left _ _)⟩
    · obtain ⟨s, -, rfl⟩ := mem_optionalField hp
      exact memberReads_str rfl rfl
    · obtain ⟨s, -, rfl⟩ := mem_optionalField hp
      exact memberReads_str rfl rfl
    · obtain rfl := mem_dataField hp
      exact ⟨⟨_, ReportJson.payload, f.data, rfl,
        by rw [Value.canonical_of_keysSorted _ hf.data_sorted]; rfl⟩,
        hf.data_integral, le_max_right _ _⟩
  · exact ⟨_, by
      simp only [FieldReader.bind_of_ok (field_canonical "severity" _ hnd .required
          ReportJson.severity rfl (severity_name _)),
        FieldReader.bind_of_ok (field_canonical "check_id" _ hnd .required Value.readString rfl rfl),
        FieldReader.bind_of_ok (field_canonical "code" _ hnd .required Value.readString rfl rfl),
        FieldReader.bind_of_ok (field_canonical "message" _ hnd .required Value.readString rfl rfl),
        FieldReader.bind_of_ok (field_option "location" _ hnd _ hlocation hloc),
        FieldReader.bind_of_ok (field_option "help" _ hnd _ hhelp fun s _ => readOption_str s),
        FieldReader.bind_of_ok
          (field_option "fingerprint" _ hnd _ hfingerprint fun s _ => readOption_str s),
        FieldReader.bind_of_ok (field_data _ hnd hf.data_sorted hdata)]
      rfl⟩

/-- A run summary, with its counts unsigned 32-bit numbers. -/
theorem summary_reads {d : RunSummary} (hs : d.dependenciesScanned ≤ Value.maxU32)
    (hc : d.filesChecked ≤ Value.maxU32) (ht : d.findingsTotal ≤ Value.maxU32) :
    ReportJson.summary d.toJson.canonical = .ok d ∧ d.toJson.Integral ∧ d.toJson.depth ≤ 2 := by
  have hnd := d.toJson_nodup rfl
  have hrules : Value.readList Value.readString (Value.ofStrings d.rulesEvaluated).canonical =
      .ok d.rulesEvaluated := by
    rw [canonical_ofStrings]
    exact readList_strings _
  unfold ReportJson.summary RunSummary.toJson
  apply record_of_members
  · intro p hp
    rcases List.mem_append.1 hp with hp | hp
    · simp only [List.mem_cons, List.not_mem_nil, or_false] at hp
      rcases hp with rfl | rfl | rfl | rfl | rfl
      · exact memberReads_str rfl rfl
      · exact ⟨⟨_, _, d.rulesEvaluated, rfl, hrules⟩, integral_ofStrings _, depth_ofStrings_le _⟩
      · exact memberReads_nat rfl hs
      · exact memberReads_nat rfl hc
      · exact memberReads_nat rfl ht
    · obtain ⟨s, -, rfl⟩ := mem_optionalField hp
      exact memberReads_str rfl rfl
  · exact ⟨_, by
      simp only [FieldReader.bind_of_ok
          (field_canonical "profile" _ hnd .required Value.readString rfl rfl),
        FieldReader.bind_of_ok (field_canonical "rules_evaluated" _ hnd .required _ rfl hrules),
        FieldReader.bind_of_ok (field_canonical "dependencies_scanned" _ hnd .required
          Value.readU32 rfl (readU32_nat hs)),
        FieldReader.bind_of_ok (field_canonical "files_checked" _ hnd .required
          Value.readU32 rfl (readU32_nat hc)),
        FieldReader.bind_of_ok (field_canonical "findings_total" _ hnd .required
          Value.readU32 rfl (readU32_nat ht)),
        FieldReader.bind_of_ok (field_option "cache_id" _ hnd Value.readString
          (show _ = d.cacheId.map Value.str by
            simp [lookup_optionalField, Value.lookup_cons_ite])
          fun s _ => readOption_str s)]
      rfl⟩

/-- The findings of a report, read back in order as one array. -/
theorem findings_reads {fs : List Finding} (hf : ∀ f ∈ fs, f.Readable) {n : Nat}
    (hn : ∀ f ∈ fs, f.data.depth ≤ n) :
    Value.readList ReportJson.finding (Value.arr (fs.map Finding.toJson)).canonical = .ok fs ∧
      (Value.arr (fs.map Finding.toJson)).Integral ∧
      (Value.arr (fs.map Finding.toJson)).depth ≤ max 1 n + 2 := by
  refine ⟨?_, itemsIntegral_of_forall fun v hv => ?_, ?_⟩
  · show (Value.canonicalItems (fs.map Finding.toJson)).mapM ReportJson.finding = .ok fs
    induction fs with
    | nil => rfl
    | cons f fs ih =>
      simp only [List.map_cons, Value.canonicalItems, List.mapM_cons,
        (finding_reads (hf f List.mem_cons_self)).1,
        ih (fun g hg => hf g (List.mem_cons_of_mem _ hg)) fun g hg => hn g (List.mem_cons_of_mem _ hg)]
      rfl
  · obtain ⟨f, hf', rfl⟩ := List.mem_map.1 hv
    exact (finding_reads (hf f hf')).2.1
  · have h : Value.itemsDepth (fs.map Finding.toJson) ≤ max 1 n + 1 := itemsDepth_le fun v hv => by
      obtain ⟨f, hf', rfl⟩ := List.mem_map.1 hv
      have := (finding_reads (hf f hf')).2.2
      have := hn f hf'
      omega
    show Value.itemsDepth (fs.map Finding.toJson) + 1 ≤ _
    omega

/-- **A report reads back from its text's value**, and nests three levels above its deepest
payload. -/
theorem report_reads {r : Report} (hr : r.Readable) {n : Nat}
    (hn : ∀ f ∈ r.findings, f.data.depth ≤ n) :
    ReportJson.report r.toJson.canonical = .ok r ∧ r.toJson.Integral ∧
      r.toJson.depth ≤ max 1 n + 3 := by
  have hnd := r.toJson_nodup Timestamp.render rfl
  have htool := tool_reads r.tool
  have hfindings := findings_reads hr.findings_readable hn
  have hdata := summary_reads hr.scanned_le hr.checked_le hr.total_le
  unfold ReportJson.report Report.toJson Report.toJsonWith
  apply record_of_members
  · intro p hp
    simp only [List.mem_cons, List.not_mem_nil, or_false] at hp
    rcases hp with rfl | rfl | rfl | rfl | rfl | rfl | rfl
    · exact memberReads_str rfl rfl
    · exact ⟨⟨_, _, r.tool, rfl, htool.1⟩, htool.2.1, Nat.le_trans htool.2.2 (by omega)⟩
    · exact memberReads_str rfl (timestamp_render hr.startedAt_valid)
    · exact memberReads_str rfl (timestamp_render hr.finishedAt_valid)
    · exact memberReads_str rfl (verdict_name _)
    · exact ⟨⟨_, _, r.findings, rfl, hfindings.1⟩, hfindings.2.1, hfindings.2.2⟩
    · exact ⟨⟨_, _, r.data, rfl, hdata.1⟩, hdata.2.1, Nat.le_trans hdata.2.2 (by omega)⟩
  · exact ⟨_, by
      simp only [FieldReader.bind_of_ok
          (field_canonical "schema" _ hnd .required Value.readString rfl rfl),
        FieldReader.bind_of_ok (field_canonical "tool" _ hnd .required _ rfl htool.1),
        FieldReader.bind_of_ok (field_canonical "started_at" _ hnd .required ReportJson.timestamp
          rfl (timestamp_render hr.startedAt_valid)),
        FieldReader.bind_of_ok (field_canonical "finished_at" _ hnd .required ReportJson.timestamp
          rfl (timestamp_render hr.finishedAt_valid)),
        FieldReader.bind_of_ok (field_canonical "verdict" _ hnd .required ReportJson.verdict
          rfl (verdict_name _)),
        FieldReader.bind_of_ok (field_canonical "findings" _ hnd .required _ rfl hfindings.1),
        FieldReader.bind_of_ok (field_canonical "data" _ hnd .required _ rfl hdata.1)]
      rfl⟩

/-- The texts of the times neither nest nor hold numbers: how a report's times are written
changes neither the depth of its value nor whether its numbers are integral. -/
theorem Report.depth_integral_toJsonWith (r : Report) (fmt fmt' : Timestamp → String) :
    (r.toJsonWith fmt).depth = (r.toJsonWith fmt').depth ∧
      ((r.toJsonWith fmt).Integral ↔ (r.toJsonWith fmt').Integral) := by
  constructor <;>
    simp [Report.toJsonWith, Value.depth, Value.membersDepth, Value.Integral,
      Value.MembersIntegral]

/-- **The value of a report holds integers only** where its text can carry them back. -/
theorem Report.integral_toJsonWith {r : Report} (hr : r.Readable) (fmt : Timestamp → String) :
    (r.toJsonWith fmt).Integral := by
  have hfindings : (Value.arr (r.findings.map Finding.toJson)).Integral :=
    itemsIntegral_of_forall fun v hv => by
      obtain ⟨f, hf, rfl⟩ := List.mem_map.1 hv
      exact (finding_reads (hr.findings_readable f hf)).2.1
  have htool := (tool_reads r.tool).2.1
  have hdata := (summary_reads hr.scanned_le hr.checked_le hr.total_le).2.1
  simp only [Report.toJsonWith, Value.Integral, Value.MembersIntegral] at hfindings ⊢
  exact ⟨trivial, htool, trivial, trivial, trivial, hfindings, hdata, trivial⟩

/-- **The value of a report nests three levels above its deepest payload**, and no less than
one level below the report's summary. -/
theorem Report.depth_toJsonWith_le {r : Report} (hr : r.Readable) (fmt : Timestamp → String)
    {n : Nat} (hn : ∀ f ∈ r.findings, f.data.depth ≤ n) :
    (r.toJsonWith fmt).depth ≤ max 1 n + 3 := by
  have h : (r.toJsonWith Timestamp.render).depth ≤ max 1 n + 3 := (report_reads hr hn).2.2
  rwa [← (r.depth_integral_toJsonWith fmt Timestamp.render).1] at h

/-! ### How deep the reader's value nests -/

namespace Json

theorem le_itemsDepth {x : Value} {vs : List Value} (h : x ∈ vs) :
    x.depth ≤ Value.itemsDepth vs := by
  induction vs with
  | nil => cases h
  | cons v vs ih =>
    simp only [Value.itemsDepth]
    rcases List.mem_cons.1 h with rfl | h
    · exact le_max_left _ _
    · exact le_max_of_le_right (ih h)

theorem le_membersDepth {p : String × Value} {fs : List (String × Value)} (h : p ∈ fs) :
    p.2.depth ≤ Value.membersDepth fs := by
  induction fs with
  | nil => cases h
  | cons q fs ih =>
    obtain ⟨k, v⟩ := q
    simp only [Value.membersDepth]
    rcases List.mem_cons.1 h with rfl | h
    · exact le_max_left _ _
    · exact le_max_of_le_right (ih h)

theorem mem_canonicalItems {x : Value} {vs : List Value} (h : x ∈ vs) :
    x.canonical ∈ Value.canonicalItems vs := by
  induction vs with
  | nil => cases h
  | cons v vs ih =>
    simp only [Value.canonicalItems]
    rcases List.mem_cons.1 h with rfl | h
    · exact List.mem_cons_self
    · exact List.mem_cons_of_mem _ (ih h)

theorem mem_of_lookup {fs : List (String × Value)} {k : String} {v : Value}
    (h : fs.lookup k = some v) : (k, v) ∈ fs := by
  induction fs with
  | nil => cases h
  | cons p fs ih =>
    obtain ⟨j, u⟩ := p
    rw [Value.lookup_cons_ite] at h
    by_cases hkj : k = j
    · rw [if_pos hkj] at h
      cases h
      rw [hkj]
      exact List.mem_cons_self
    · rw [if_neg hkj] at h
      exact List.mem_cons_of_mem _ (ih h)

theorem lookup_of_mem {fs : List (String × Value)} (hnd : (fs.map Prod.fst).Nodup) {k : String}
    {v : Value} (h : (k, v) ∈ fs) : fs.lookup k = some v := by
  induction fs with
  | nil => cases h
  | cons p fs ih =>
    obtain ⟨j, u⟩ := p
    rw [List.map_cons, List.nodup_cons] at hnd
    rw [Value.lookup_cons_ite]
    rcases List.mem_cons.1 h with h | h
    · cases h
      exact if_pos rfl
    · -- a key of the tail: not the head's, whose key occurs once
      have hkj : k ≠ j := fun e =>
        hnd.1 (e ▸ (List.mem_map_of_mem h : (k, v).1 ∈ fs.map Prod.fst))
      rw [if_neg hkj]
      exact ih hnd.2 h

/-- **A member's value nests one level below its object**, in the value a reader makes of
them, when the object repeats no key. -/
theorem depth_canonical_member {fs : List (String × Value)} (hnd : (fs.map Prod.fst).Nodup)
    {k : String} {v : Value} (h : (k, v) ∈ fs) :
    v.canonical.depth + 1 ≤ (Value.obj fs).canonical.depth := by
  have hl : (Value.canonicalMembers [] fs).lookup k = some v.canonical := by
    rw [Value.lookup_canonical_obj hnd, lookup_of_mem hnd h]
    rfl
  have hv : v.canonical.depth ≤ Value.membersDepth (Value.canonicalMembers [] fs) :=
    le_membersDepth (mem_of_lookup hl)
  show _ ≤ Value.membersDepth (Value.canonicalMembers [] fs) + 1
  omega

/-- An item nests one level below its array, in the value a reader makes of them. -/
theorem depth_canonical_item {vs : List Value} {x : Value} (h : x ∈ vs) :
    x.canonical.depth + 1 ≤ (Value.arr vs).canonical.depth := by
  have hx : x.canonical.depth ≤ Value.itemsDepth (Value.canonicalItems vs) :=
    le_itemsDepth (mem_canonicalItems h)
  show _ ≤ Value.itemsDepth (Value.canonicalItems vs) + 1
  omega

end Json

/-- A finding's payload nests one level below the finding, in the value a reader makes of it. -/
theorem Finding.depth_data_lt {f : Finding} (hf : f.data.KeysSorted) :
    f.data.depth + 1 ≤ f.toJson.canonical.depth := by
  by_cases hnull : f.data.isNull
  · -- no payload is written: the finding's object is still one level deep
    have h0 : f.data.depth = 0 := by
      generalize f.data = d at hnull
      cases d <;> first | rfl | simp [Value.isNull] at hnull
    have h1 : 1 ≤ f.toJson.canonical.depth := by
      unfold Finding.toJson
      simp only [Value.canonical, Value.depth]
      omega
    omega
  · have h : f.data.canonical.depth + 1 ≤ f.toJson.canonical.depth :=
      depth_canonical_member (f.toJson_nodup rfl) (show ("data", f.data) ∈ _ by simp [hnull])
    rwa [Value.canonical_of_keysSorted _ hf] at h

/-- **A payload nests three levels below the report that carries it**, in the value a reader
makes of the report's text: the report, its findings and the finding each add one. -/
theorem Report.depth_data_le {r : Report} (hr : r.Readable) (fmt : Timestamp → String)
    {f : Finding} (hf : f ∈ r.findings) : f.data.depth + 3 ≤ (r.toJsonWith fmt).canonical.depth := by
  have h₁ := Finding.depth_data_lt (hr.findings_readable f hf).data_sorted
  have h₂ : f.toJson.canonical.depth + 1 ≤
      (Value.arr (r.findings.map Finding.toJson)).canonical.depth :=
    depth_canonical_item (List.mem_map_of_mem hf)
  have h₃ : (Value.arr (r.findings.map Finding.toJson)).canonical.depth + 1 ≤
      (r.toJsonWith fmt).canonical.depth :=
    depth_canonical_member (r.toJson_nodup fmt rfl)
      (show ("findings", Value.arr (r.findings.map Finding.toJson)) ∈ _ by simp)
  omega

/-! ### Reading a report's text -/

namespace Report

theorem reportSchema_ne_empty : reportSchema ≠ "" := by
  simp [reportSchema]

/-- The schema a value declares is its schema field's text, when it declares one. -/
theorem field_schema_of_declared {v : Value} {s : String} (h : declaredSchema v = s)
    (hs : s ≠ "") : v.field? "schema" = some (.str s) := by
  unfold declaredSchema at h
  cases hf : v.field? "schema" with
  | none =>
    rw [hf] at h
    exact absurd h.symm hs
  | some w =>
    rw [hf] at h
    cases w with
    | str t =>
      cases h
      rfl
    | _ => exact absurd h.symm hs

theorem declaredSchema_toJsonWith (r : Report) (fmt : Timestamp → String) :
    declaredSchema (r.toJsonWith fmt).canonical = r.schema := by
  have hl : Value.field? (r.toJsonWith fmt).canonical "schema" = some (.str r.schema) := by
    show (Value.canonicalMembers [] _).lookup "schema" = _
    rw [Value.lookup_canonical_obj (r.toJson_nodup fmt rfl)]
    rfl
  simp only [declaredSchema, hl]
  rfl

end Report

end PinAudit
