import PinAudit.Proofs.ReportText

/-!
# Reports read back from their text

A report's text goes through libraries: the JSON library writes the report's value pretty and
reads a text back as a value, the time library writes the report's times in RFC 3339, and the
serde derive gives the reader of a report from a value. They are a parameter here
(`ReportCodec`), with what they document of themselves (`ReportCodec.Lawful`):

* the JSON reader reads the pretty text of a value back as the value a reader holds of it
  (objects sorted by key), when the value's numbers are integers it keeps as such and it nests
  less than 128 deep, and never reads such a text as anything else;
* it refuses the 128th level: no text is read as a value nested 128 deep;
* the derive's reader, with the time library's round trip, reads back the value a reader holds
  of a report's value, for every report its text can carry (`Report.Readable`).

Under these the round trip holds exactly when no payload nests more than 124 deep
(`Report.readTextWith_laws`): a finding's payload sits three levels into the report's value
(the report, the list of findings, the finding), and the reader refuses the 128th level. A text
that does not declare the report schema is refused whatever else it holds, whatever the
libraries. The libraries the tool runs are lawful (`ReportCodec.tool_lawful`), so the tool does
not read back the text of a report whose payload nests 125 deep
(`readText_render_deepPayload`).
-/

namespace PinAudit

open Json

/-- **What the libraries a report's text goes through do**, as they document it. -/
structure ReportCodec.Lawful (c : ReportCodec) : Prop where
  /-- The JSON reader reads the pretty text of a value back as the value a reader holds of it,
  when the value's numbers are integers it keeps as such and it nests less than 128 deep. -/
  parse_pretty : ∀ v : Value, v.Integral → v.depth < 128 → c.parse (c.pretty v) = .ok v.canonical
  /-- Whatever the JSON reader reads from the pretty text of such a value is the value a reader
  holds of it. -/
  eq_canonical_of_parse_pretty : ∀ v w : Value, v.Integral → c.parse (c.pretty v) = .ok w →
    w = v.canonical
  /-- The JSON reader refuses the 128th level: no text is read as a value nested 128 deep. -/
  depth_lt_of_parse : ∀ (text : String) (w : Value), c.parse text = .ok w → w.depth < 128
  /-- The derive's reader, with the time library's round trip, reads the value a reader holds of
  a report's value back as the report, for a report its text can carry. -/
  decode_toJsonWith : ∀ r : Report, r.Readable →
    c.decode (r.toJsonWith c.formatTime).canonical = .ok r

namespace Report

section Codec

variable {c : ReportCodec}

theorem readTextWith_of_parse {text : String} {v : Value} (h : c.parse text = .ok v) :
    readTextWith c text = readWith c.decode v := by
  unfold readTextWith
  rw [h]

/-- The value a reader holds of a report's value passes the schema check and reads back. -/
theorem readWith_toJsonWith (hc : c.Lawful) {r : Report} (hr : r.Readable) :
    readWith c.decode (r.toJsonWith c.formatTime).canonical = .ok r := by
  unfold readWith
  simp [declaredSchema_toJsonWith, hr.schema_eq, hc.decode_toJsonWith r hr]

/-- A report whose payloads nest at most 124 deep comes back from its text. -/
theorem readTextWith_renderWith (hc : c.Lawful) {r : Report} (hr : r.Readable)
    (hd : ∀ f ∈ r.findings, f.data.depth ≤ 124) : readTextWith c (renderWith c r) = .ok r := by
  -- the value nests three levels above its deepest payload, so at most 127 deep
  have hdepth := depth_toJsonWith_le hr c.formatTime hd
  have hparse : c.parse (renderWith c r) = .ok (r.toJsonWith c.formatTime).canonical :=
    hc.parse_pretty _ (integral_toJsonWith hr c.formatTime) (by omega)
  rw [readTextWith_of_parse hparse]
  exact readWith_toJsonWith hc hr

/-- **A report that comes back from its text nests its payloads at most 124 deep**: the
reader reads the text as the value a reader holds of the report, which nests three levels above
each payload, and it reads no value nested 128 deep. -/
theorem depth_le_of_readTextWith_renderWith (hc : c.Lawful) {r : Report} (hr : r.Readable)
    (h : readTextWith c (renderWith c r) = .ok r) : ∀ f ∈ r.findings, f.data.depth ≤ 124 := by
  intro f hf
  obtain ⟨w, hw⟩ : ∃ w, c.parse (renderWith c r) = .ok w := by
    unfold readTextWith at h
    split at h
    · rename_i v hv
      exact ⟨v, hv⟩
    · cases h
  have hcanon := hc.eq_canonical_of_parse_pretty _ w (integral_toJsonWith hr c.formatTime) hw
  have hlimit := hc.depth_lt_of_parse _ w hw
  have hdeep := depth_data_le hr c.formatTime hf
  subst hcanon
  omega

/-- A text that does not declare the report schema is refused, whatever the libraries. -/
theorem readTextWith_foreign {text : String}
    (h : ∀ v, c.parse text = .ok v → v.field? "schema" ≠ some (.str reportSchema)) :
    ∃ e, readTextWith c text = .error e := by
  unfold readTextWith
  split
  · rename_i v hv
    have hne : declaredSchema v ≠ reportSchema := fun heq =>
      h v hv (field_schema_of_declared heq reportSchema_ne_empty)
    refine ⟨.unknownSchema (declaredSchema v), ?_⟩
    unfold readWith
    simp [hne]
  · exact ⟨_, rfl⟩

/-- **Reading a report's text**, through any libraries that do what they document: a report
whose text can carry it back (integers in range, valid timestamps) comes back from its text
exactly when none of its payloads nests more than 124 levels deep, and a text that does not
declare the report schema is refused. -/
theorem readTextWith_laws (hc : c.Lawful) (r : Report) (text : String) :
    (r.Readable →
      (readTextWith c (renderWith c r) = .ok r ↔ ∀ f ∈ r.findings, f.data.depth ≤ 124)) ∧
    ((∀ v, c.parse text = .ok v → v.field? "schema" ≠ some (.str reportSchema)) →
      ∃ e, readTextWith c text = .error e) :=
  ⟨fun hr => ⟨depth_le_of_readTextWith_renderWith hc hr, readTextWith_renderWith hc hr⟩,
    readTextWith_foreign⟩

end Codec

end Report

/-- **The libraries the tool runs do what they document**: its JSON reader reads a pretty text
back and refuses the 128th level, and its reader of reports reads a report's value back. -/
theorem ReportCodec.tool_lawful : ReportCodec.tool.Lawful where
  parse_pretty _ hv hd := parse_pretty hv hd
  eq_canonical_of_parse_pretty _ _ hv h := (parse_pretty_eq_ok hv h).1
  depth_lt_of_parse _ _ h := depth_lt_of_parse h
  decode_toJsonWith r hr :=
    (@report_reads r hr (Value.itemsDepth (r.findings.map Finding.data))
      fun _ hg => le_itemsDepth (List.mem_map_of_mem hg)).1

namespace Report

/-- A run that could not finish comes back from its report's text, and a text declaring
another schema is refused. -/
theorem readTextWith_laws_runtimeError :
    readText (runtimeError "boom" ⟨2024, 1, 1, 0, 0, 0, 0, 0⟩).render =
        .ok (runtimeError "boom" ⟨2024, 1, 1, 0, 0, 0, 0, 0⟩) ∧
      ∃ e, readText "\x7b\"schema\": \"other.report.v1\"\x7d" = .error e := by
  have hvalid : Timestamp.Valid ⟨2024, 1, 1, 0, 0, 0, 0, 0⟩ := by
    constructor <;> decide
  have hfinding : ∀ f ∈ (runtimeError "boom" ⟨2024, 1, 1, 0, 0, 0, 0, 0⟩).findings,
      f.Readable ∧ f.data.depth ≤ 124 := by
    intro f hf
    obtain rfl := List.mem_singleton.1 hf
    exact ⟨⟨(fun l hl => nomatch hl), trivial, trivial⟩, Nat.zero_le _⟩
  have hr : (runtimeError "boom" ⟨2024, 1, 1, 0, 0, 0, 0, 0⟩).Readable :=
    ⟨rfl, hvalid, hvalid, Nat.zero_le _, Nat.zero_le _, by decide,
      fun f hf => (hfinding f hf).1⟩
  have hparse : Json.parse "\x7b\"schema\": \"other.report.v1\"\x7d" =
      .ok (.obj [("schema", .str "other.report.v1")]) := by
    rfl
  have h := readTextWith_laws ReportCodec.tool_lawful (runtimeError "boom" ⟨2024, 1, 1, 0, 0, 0, 0, 0⟩)
    "\x7b\"schema\": \"other.report.v1\"\x7d"
  refine ⟨(h.1 hr).2 fun f hf => (hfinding f hf).2, h.2 fun v hv => ?_⟩
  have hv' : Json.parse "\x7b\"schema\": \"other.report.v1\"\x7d" = .ok v := hv
  rw [hparse] at hv'
  cases hv'
  simp [Value.field?, reportSchema]

end Report

/-- A payload of `n` arrays, each holding the next, around `0`. -/
def nestedArrays : Nat → Value
  | 0 => .num (.nat 0)
  | n + 1 => .arr [nestedArrays n]

theorem depth_nestedArrays (n : Nat) : (nestedArrays n).depth = n := by
  induction n with
  | zero => rfl
  | succ n ih =>
    show Value.itemsDepth [nestedArrays n] + 1 = n + 1
    simp [Value.itemsDepth, ih]

theorem integral_nestedArrays (n : Nat) : (nestedArrays n).Integral := by
  induction n with
  | zero => exact Nat.zero_le _
  | succ n ih => exact ⟨ih, trivial⟩

theorem keysSorted_nestedArrays (n : Nat) : (nestedArrays n).KeysSorted := by
  induction n with
  | zero => trivial
  | succ n ih => exact ⟨ih, trivial⟩

/-- A warning report whose one finding carries a payload nested 125 arrays deep. -/
def deepPayloadReport : Report where
  schema := reportSchema
  tool := ToolMeta.current
  startedAt := ⟨2024, 1, 1, 0, 0, 0, 0, 0⟩
  finishedAt := ⟨2024, 1, 1, 0, 0, 1, 0, 0⟩
  verdict := .warn
  findings := [{
      severity := .warning
      checkId := "c"
      code := "k"
      message := "m"
      data := nestedArrays 125 }]
  data := { profile := "strict", findingsTotal := 1 }

theorem deepPayloadReport_readable : deepPayloadReport.Readable where
  schema_eq := rfl
  startedAt_valid := by constructor <;> decide
  finishedAt_valid := by constructor <;> decide
  scanned_le := Nat.zero_le _
  checked_le := Nat.zero_le _
  total_le := by decide
  findings_readable f hf := by
    obtain rfl := List.mem_singleton.1 hf
    exact ⟨(fun l hl => nomatch hl), integral_nestedArrays 125, keysSorted_nestedArrays 125⟩

/-- **The tool does not read back a report whose payload nests 125 deep**: the report's value
nests 128 deep, and the tool's JSON reader refuses it. -/
theorem readText_render_deepPayload :
    Report.readText deepPayloadReport.render ≠ .ok deepPayloadReport := by
  intro h
  have hdepth := Report.depth_le_of_readTextWith_renderWith ReportCodec.tool_lawful
    deepPayloadReport_readable h _ List.mem_cons_self
  have h125 : (nestedArrays 125).depth = 125 := depth_nestedArrays 125
  exact absurd (h125 ▸ hdepth) (by decide)

end PinAudit
