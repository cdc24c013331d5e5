import PinAudit.Proofs.SettingsValidity

/-!
# Where each effective setting comes from

Resolving settings takes each setting from one of three layers: the command line's overrides,
the configuration file, and the settings of the selected profile. This module says, setting by
setting, which layer wins in settings that resolved (`Settings.Layered`).

- The profile is the command line's, else the file's, else `strict`; the tree is the command
  line's, else the file's; `fail_on` is read from the file when it names one, else it is the
  profile's.
- The dynamic-version rule is off exactly when its table turns it off. Otherwise each key of the
  table (the severity, the message, the six toggles, the excluded scopes and the ignore
  patterns) gives the rule's value when the table sets it, and the profile's rule gives it
  when the table does not (`DynamicTable.Overlays`); with no table the rule is the profile's.
- A file rule is on exactly when its table is there and does not turn it off; its severity is
  read from the table, else it is the severity of the profile's dynamic-version rule, and its
  message and options are the table's (`FileTable.Defines`).

Resolving is a profile's settings followed by four steps (`Settings.resolve_eq_ok`). Each step
writes one setting and keeps the others (`setFailOn_eq_ok`, `setDynamic_eq_ok`,
`setFilesExist_eq_ok`, `setFilesAbsent_eq_ok`), so each setting is read off the one step that
writes it.

Main statement: `Settings.resolve_layered`.
-/

namespace PinAudit

open Settings

/-! ### What a key of a table gives -/

/-- A value **follows an optional key** read by `read` over a default: it is what `read` makes of
the key's text when the key is set, and the default when it is not. -/
structure KeyFollows {α : Type} (read : String → Except Failure α) (key : Option String)
    (dflt v : α) : Prop where
  ofSet : ∀ text, key = some text → read text = .ok v
  ofUnset : key = none → v = dflt

namespace KeyFollows

variable {α : Type} {read : String → Except Failure α} {key : Option String} {dflt v : α}

/-- A key that is set gives what is read from its text. -/
theorem of_set {text : String} (hkey : key = some text) (hread : read text = .ok v) :
    KeyFollows read key dflt v where
  ofSet text' ht := by
    rw [hkey, Option.some.injEq] at ht
    exact ht ▸ hread
  ofUnset ht := by
    rw [hkey] at ht
    cases ht

/-- A key that is unset gives the default. -/
theorem of_unset (hkey : key = none) : KeyFollows read key dflt dflt where
  ofSet _ ht := by
    rw [hkey] at ht
    cases ht
  ofUnset _ := rfl

end KeyFollows

/-- The policy a dynamic-version table makes of a policy: each key the table sets replaces the
policy's value. -/
def DynamicTable.overlay (t : DynamicTable) (p : DynamicPolicy) : DynamicPolicy where
  allowSnapshots := t.allowSnapshots.getD p.allowSnapshots
  allowLatest := t.allowLatest.getD p.allowLatest
  allowRelease := t.allowRelease.getD p.allowRelease
  allowRanges := t.allowRanges.getD p.allowRanges
  allowIdenticalBounds := t.allowIdenticalBounds.getD p.allowIdenticalBounds
  excludeOptionals := t.excludeOptionals.getD p.excludeOptionals
  excludedScopes := t.excludedScopes.getD p.excludedScopes
  ignores := t.ignores.getD p.ignores

/-- **A dynamic-version rule after its table over the rule `pre`**: the table's severity is
read, its message and its policy keys are taken, and `pre` gives whatever the table leaves
unset. -/
structure DynamicTable.Overlays (t : DynamicTable) (pre rule : RulePolicy DynamicPolicy) :
    Prop where
  severity : KeyFollows parseSeverity t.severity pre.severity rule.severity
  message : rule.message = t.message.orElse fun _ => pre.message
  options : rule.options = t.overlay pre.options

/-- **A file rule after an optional table**: the rule is on exactly when the table is there and
does not turn it off; its severity is read from the table over `dflt`, and its message and
options are the table's. -/
structure FileTable.Defines (table : Option FileTable) (dflt : Severity)
    (rule : Option (RulePolicy FilePolicy)) : Prop where
  isSome_iff : rule.isSome ↔ ∃ t, table = some t ∧ t.enabled ≠ some false
  severity : ∀ t r, table = some t → rule = some r →
    KeyFollows parseSeverity t.severity dflt r.severity
  message : ∀ t r, table = some t → rule = some r → r.message = t.message
  options : ∀ t r, table = some t → rule = some r →
    r.options = ⟨t.files, t.allowNulls, t.satisfyAny, t.caseSensitive⟩

/-- **Where each setting of the settings `s` comes from.** `o` overrides the file `cfg`, which
overrides `base`, the settings of the selected profile, whose dynamic-version rule is `pre`. -/
structure Settings.Layered (s : Settings) (cfg : ConfigFile) (o : Overrides) (base : Settings)
    (pre : RulePolicy DynamicPolicy) : Prop where
  profile : s.profile = (o.profile.orElse fun _ => cfg.profile).getD "strict"
  preset : preset? s.profile = some base
  presetRule : base.dynamicVersions = some pre
  tree : s.tree = o.tree.orElse fun _ => cfg.tree
  failOn : KeyFollows parseFailOn cfg.failOn base.failOn s.failOn
  dynamic_eq_none : s.dynamicVersions = none ↔
    ∃ t, cfg.rules.banDynamicVersions = some t ∧ t.enabled = some false
  dynamic : ∀ rule, s.dynamicVersions = some rule →
    (cfg.rules.banDynamicVersions.getD {}).Overlays pre rule
  filesExist : FileTable.Defines cfg.rules.requireFilesExist pre.severity s.requireFilesExist
  filesAbsent : FileTable.Defines cfg.rules.requireFilesDontExist pre.severity
    s.requireFilesAbsent

/-! ### The rule tables -/

theorem toggle_eq_getD (current : Bool) (o : Option Bool) : toggle current o = o.getD current := by
  cases o <;> rfl

/-- A table that sets nothing keeps a rule as it is. -/
theorem DynamicTable.overlays_empty (pre : RulePolicy DynamicPolicy) :
    ({} : DynamicTable).Overlays pre pre where
  severity := .of_unset rfl
  message := rfl
  options := rfl

/-- **What a dynamic-version table that is on makes of a rule**: the rule it overlays. -/
theorem applyDynamic_eq_some {pre : RulePolicy DynamicPolicy} {t : DynamicTable}
    {dflt : Severity} {r : Option (RulePolicy DynamicPolicy)} (hon : t.enabled ≠ some false)
    (h : applyDynamic (some pre) t dflt = .ok r) : ∃ rule, r = some rule ∧ t.Overlays pre rule := by
  unfold applyDynamic at h
  simp only [beq_iff_eq, hon, if_false, Option.getD_some] at h
  -- whatever the severity, a policy that made an auditor gives the overlaid rule
  have made : ∀ sev, KeyFollows parseSeverity t.severity pre.severity sev →
      r = some ⟨sev, t.message.orElse fun _ => pre.message, t.overlay pre.options⟩ →
      ∃ rule, r = some rule ∧ t.Overlays pre rule :=
    fun sev hsev hr => ⟨_, hr, hsev, rfl, rfl⟩
  split at h
  · -- a named severity is read first
    rename_i text hs
    obtain ⟨sev, hsev, h⟩ := Except.bind_eq_ok.1 h
    split at h
    · cases h
    · simp only [pure, Except.pure, Except.ok.injEq, toggle_eq_getD] at h
      exact made sev (.of_set hs hsev) (by rw [← h]; cases t.message <;> rfl)
  · -- with none, the profile's rule keeps its severity
    rename_i hs
    obtain ⟨sev, hsev, h⟩ := Except.bind_eq_ok.1 h
    split at h
    · cases h
    · simp only [pure, Except.pure, Except.ok.injEq, toggle_eq_getD] at hsev h
      subst hsev
      exact made _ (.of_unset hs) (by rw [← h]; cases t.message <;> rfl)

/-- **What a dynamic-version table makes of a rule**: nothing when it turns the rule off, the
rule it overlays otherwise. -/
theorem applyDynamic_overlays {pre : RulePolicy DynamicPolicy} {t : DynamicTable}
    {dflt : Severity} {r : Option (RulePolicy DynamicPolicy)}
    (h : applyDynamic (some pre) t dflt = .ok r) :
    (r = none ↔ t.enabled = some false) ∧ ∀ rule, r = some rule → t.Overlays pre rule := by
  by_cases hoff : t.enabled = some false
  · -- a rule turned off is dropped
    rcases applyDynamic_eq_ok h with ⟨-, rfl⟩ | ⟨hon, -⟩
    · exact ⟨iff_of_true rfl hoff, fun _ hr => by cases hr⟩
    · exact absurd hoff hon
  · obtain ⟨rule, rfl, hrule⟩ := applyDynamic_eq_some hoff h
    refine ⟨iff_of_false (by simp) hoff, fun rule' hr => ?_⟩
    cases hr
    exact hrule

/-- No rule follows a table that is missing or turns the rule off. -/
theorem FileTable.Defines.of_off {table : Option FileTable} {dflt : Severity}
    (hoff : ∀ t, table = some t → t.enabled = some false) : FileTable.Defines table dflt none where
  isSome_iff := by
    simp only [Option.isSome_none, Bool.false_eq_true, false_iff, not_exists, not_and]
    exact fun t ht hon => hon (hoff t ht)
  severity _ _ _ hr := by cases hr
  message _ _ _ hr := by cases hr
  options _ _ _ hr := by cases hr

/-- **What a file table makes**: a rule exactly when it is on, with the table's severity read
over `dflt`, and the table's message and options. -/
theorem fileRule_defines {t : FileTable} {dflt : Severity} {r : Option (RulePolicy FilePolicy)}
    (h : fileRule t dflt = .ok r) : FileTable.Defines (some t) dflt r := by
  unfold fileRule at h
  by_cases hoff : t.enabled = some false
  · simp only [hoff, BEq.rfl, if_true, pure, Except.pure, Except.ok.injEq] at h
    subst h
    exact .of_off fun t' ht' => by cases ht'; exact hoff
  simp only [beq_iff_eq, hoff, if_false] at h
  -- whatever the severity, options that passed validation give the table's rule
  have made : ∀ sev, KeyFollows parseSeverity t.severity dflt sev →
      r = some ⟨sev, t.message, ⟨t.files, t.allowNulls, t.satisfyAny, t.caseSensitive⟩⟩ →
      FileTable.Defines (some t) dflt r := by
    rintro sev hsev rfl
    refine ⟨by simp [hoff], ?_, ?_, ?_⟩ <;> rintro t' r' ht' hr' <;> cases ht' <;> cases hr'
    · exact hsev
    · rfl
    · rfl
  split at h
  · -- a named severity is read first
    rename_i text hs
    obtain ⟨sev, hsev, h⟩ := Except.bind_eq_ok.1 h
    split at h
    · cases h
    · simp only [pure, Except.pure, Except.ok.injEq] at h
      exact made sev (.of_set hs hsev) h.symm
  · -- with none, the rule takes the default severity
    rename_i hs
    obtain ⟨sev, hsev, h⟩ := Except.bind_eq_ok.1 h
    split at h
    · cases h
    · simp only [pure, Except.pure, Except.ok.injEq] at hsev h
      subst hsev
      exact made _ (.of_unset hs) h.symm

/-- No table leaves a rule off. -/
theorem FileTable.defines_none (dflt : Severity) : FileTable.Defines none dflt none :=
  .of_off fun _ ht => by cases ht

/-! ### Each step writes one setting -/

namespace Settings

theorem setFailOn_eq_ok {s s' : Settings} {f : Option String} (h : s.setFailOn f = .ok s') :
    ∃ v, s' = { s with failOn := v } ∧ KeyFollows parseFailOn f s.failOn v := by
  cases f with
  | none =>
    cases h
    exact ⟨s.failOn, rfl, .of_unset rfl⟩
  | some text =>
    cases hf : parseFailOn text with
    | error e => simp [setFailOn, hf] at h
    | ok v =>
      simp only [setFailOn, hf] at h
      cases h
      exact ⟨v, rfl, .of_set rfl hf⟩

theorem setDynamic_eq_ok {s s' : Settings} {dflt : Severity} {table : Option DynamicTable}
    {pre : RulePolicy DynamicPolicy} (hpre : s.dynamicVersions = some pre)
    (h : s.setDynamic dflt table = .ok s') :
    ∃ r, s' = { s with dynamicVersions := r } ∧
      (r = none ↔ ∃ t, table = some t ∧ t.enabled = some false) ∧
      ∀ rule, r = some rule → (table.getD {}).Overlays pre rule := by
  cases table with
  | none =>
    -- no table keeps the profile's rule
    cases h
    refine ⟨s.dynamicVersions, rfl, by simp [hpre], fun rule hr => ?_⟩
    rw [hpre] at hr
    cases hr
    exact DynamicTable.overlays_empty pre
  | some t =>
    obtain ⟨r, hr, rfl⟩ := map_withContext_eq_ok h
    rw [hpre] at hr
    obtain ⟨hnone, hrule⟩ := applyDynamic_overlays hr
    exact ⟨r, rfl, by simpa using hnone, hrule⟩

theorem setFilesExist_eq_ok {s s' : Settings} {dflt : Severity} {table : Option FileTable}
    (hoff : s.requireFilesExist = none) (h : s.setFilesExist dflt table = .ok s') :
    ∃ r, s' = { s with requireFilesExist := r } ∧ FileTable.Defines table dflt r := by
  cases table with
  | none =>
    cases h
    exact ⟨s.requireFilesExist, rfl, hoff ▸ FileTable.defines_none dflt⟩
  | some t =>
    obtain ⟨r, hr, rfl⟩ := map_withContext_eq_ok h
    exact ⟨r, rfl, fileRule_defines hr⟩

theorem setFilesAbsent_eq_ok {s s' : Settings} {dflt : Severity} {table : Option FileTable}
    (hoff : s.requireFilesAbsent = none) (h : s.setFilesAbsent dflt table = .ok s') :
    ∃ r, s' = { s with requireFilesAbsent := r } ∧ FileTable.Defines table dflt r := by
  cases table with
  | none =>
    cases h
    exact ⟨s.requireFilesAbsent, rfl, hoff ▸ FileTable.defines_none dflt⟩
  | some t =>
    obtain ⟨r, hr, rfl⟩ := map_withContext_eq_ok h
    exact ⟨r, rfl, fileRule_defines hr⟩

/-- **The settings of a profile**: they carry its name, turn the dynamic-version rule on, and
no file rule. -/
theorem preset?_eq_some {name : String} {base : Settings} (h : preset? name = some base) :
    base.profile = name ∧ (∃ pre, base.dynamicVersions = some pre) ∧
      base.requireFilesExist = none ∧ base.requireFilesAbsent = none := by
  unfold preset? at h
  split at h <;> cases h <;> exact ⟨rfl, ⟨_, rfl⟩, rfl, rfl⟩

/-- The severity a rule table names by default is that of the dynamic-version rule. -/
theorem defaultSeverity_of_dynamic {s : Settings} {pre : RulePolicy DynamicPolicy}
    (h : s.dynamicVersions = some pre) : s.defaultSeverity = pre.severity := by
  simp [defaultSeverity, h]

/-- **Where each setting of resolved settings comes from.** In settings that resolved, the
profile is the command line's, else the file's, else `strict`, and its settings `base` are the
bottom layer; the tree is the command line's, else the file's; `fail_on` is read from the file
when set, else it is the profile's. The dynamic-version rule is off exactly when its table turns
it off, and otherwise takes each key its table sets (severity, message, the six toggles, the
excluded scopes and the ignore patterns) and the profile's rule `pre` for every other. Each file
rule is on exactly when its table is there and does not turn it off, with the table's message
and options and the table's severity, else `pre`'s. -/
theorem resolve_layered {cfg : ConfigFile} {o : Overrides} {s : Settings}
    (h : resolve cfg o = .ok s) : ∃ base pre, s.Layered cfg o base pre := by
  obtain ⟨base, s₁, s₂, s₃, hbase, h₁, h₂, h₃, h₄⟩ := resolve_eq_ok h
  obtain ⟨hname, ⟨pre, hpre⟩, hexist, habsent⟩ := preset?_eq_some hbase
  have hdflt := defaultSeverity_of_dynamic hpre
  -- each step writes one setting and leaves the others as the profile has them
  obtain ⟨failOn, rfl, hfailOn⟩ := setFailOn_eq_ok h₁
  obtain ⟨dynamic, rfl, hoff, hdynamic⟩ := setDynamic_eq_ok (by exact hpre) h₂
  obtain ⟨exist, rfl, hexist'⟩ := setFilesExist_eq_ok (by exact hexist) h₃
  obtain ⟨absent, rfl, habsent'⟩ := setFilesAbsent_eq_ok (by exact habsent) h₄
  rw [hdflt] at hexist' habsent'
  refine ⟨base, pre, ⟨?_, ?_, hpre, rfl, hfailOn, hoff, hdynamic, hexist', habsent'⟩⟩
  · exact hname
  · rw [show base.profile = profileOf cfg o from hname]
    exact hbase

/-- The compat profile under a table that names a severity and a message, turns snapshots off and
ranges on and excludes test dependencies; a file rule that names no severity; a file rule turned
off; and a tree given both in the file and on the command line. -/
theorem resolve_layered_compatTables :
    resolve
        { profile := some "compat", failOn := some "warning", tree := some "target/tree.json",
          rules :=
            { banDynamicVersions := some
                { severity := some "warning", message := some "Pin your versions.",
                  allowSnapshots := some false, allowRanges := some true,
                  excludedScopes := some ["test"] },
              requireFilesExist := some { files := ["README.md"] },
              requireFilesDontExist := some { enabled := some false } } }
        { tree := some "b.json" } =
      .ok
        { profile := "compat", failOn := .warning, tree := some "b.json",
          dynamicVersions := some ⟨.warning, some "Pin your versions.",
            { allowRanges := true, allowIdenticalBounds := true, excludedScopes := ["test"] }⟩,
          requireFilesExist := some ⟨.error, none, { files := ["README.md"] }⟩ } ∧
    ∃ base pre, Settings.Layered
        { profile := "compat", failOn := .warning, tree := some "b.json",
          dynamicVersions := some ⟨.warning, some "Pin your versions.",
            { allowRanges := true, allowIdenticalBounds := true, excludedScopes := ["test"] }⟩,
          requireFilesExist := some ⟨.error, none, { files := ["README.md"] }⟩ }
        { profile := some "compat", failOn := some "warning", tree := some "target/tree.json",
          rules :=
            { banDynamicVersions := some
                { severity := some "warning", message := some "Pin your versions.",
                  allowSnapshots := some false, allowRanges := some true,
                  excludedScopes := some ["test"] },
              requireFilesExist := some { files := ["README.md"] },
              requireFilesDontExist := some { enabled := some false } } }
        { tree := some "b.json" } base pre :=
  ⟨rfl, resolve_layered rfl⟩

end Settings

end PinAudit
