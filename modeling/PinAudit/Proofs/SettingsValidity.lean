import PinAudit.Run
import PinAudit.Proofs.ExclusionPatterns

/-!
# Resolved settings pass the rules' own checks

Resolving settings checks each rule table it reads: the dynamic-version policy a table makes
must make an auditor, and a file rule's options must be valid. The rules check the same things
again when they run (`runDynamicRule` makes the auditor anew, `FileChecker.check` validates the
options first), and this module shows that those checks never fail on settings that resolved.

`Settings.Valid` says that every rule that is on passes its check. Resolving is a profile's
settings followed by four steps, one for `fail_on` and one for each rule table
(`Settings.resolve_eq_of_preset`). The settings of every profile are valid, and each step keeps
them valid: `fail_on` touches no rule, and a table's rule is one that passed its check
(`Settings.applyDynamic_eq_ok`, `Settings.fileRule_eq_ok`).

The same two lemmas give the converse. A table that is on and names an unknown severity, an
unknown scope, a refused ignore pattern, or no file while empty entries are refused
(`DynamicTable.Faulty`, `FileTable.Faulty`) makes its step fail, and with it the whole
resolution.

Main statement: `Settings.resolve_checks_rules`.
-/

namespace PinAudit

/-! ### Which policies make an auditor -/

/-- A computation that can fail succeeds exactly when it does not fail. -/
theorem Except.exists_ok_iff {ε α : Type} (x : Except ε α) :
    (∃ a, x = .ok a) ↔ ¬ ∃ e, x = .error e := by
  cases x <;> simp

/-- **The patterns of a matcher compile** exactly when none of them is refused. -/
theorem Matcher.exists_compile_eq_ok_iff (ps : List String) :
    (∃ m, Matcher.compile ps = .ok m) ↔ ∀ x ∈ ps, ¬ Pattern.TextRefused x := by
  have hmapM : (∃ e, Matcher.compile ps = .error e) ↔ ∃ e, ps.mapM Pattern.compile = .error e := by
    unfold Matcher.compile
    cases ps.mapM Pattern.compile <;> simp [Except.map]
  rw [Except.exists_ok_iff, hmapM, Matcher.mapM_eq_error_iff]
  simp only [Pattern.compile_error_iff, not_exists, not_and]

/-- **A policy makes an auditor** exactly when every scope it excludes is known and none of its
ignore patterns is refused. -/
theorem Auditor.exists_new_eq_ok_iff (p : DynamicPolicy) :
    (∃ a, Auditor.new p = .ok a) ↔
      (∀ x ∈ p.excludedScopes, x ∈ knownScopes) ∧ ∀ x ∈ p.ignores, ¬ Pattern.TextRefused x := by
  rw [← Matcher.exists_compile_eq_ok_iff]
  unfold Auditor.new
  cases hfind : p.excludedScopes.find? fun s => !knownScopes.contains s with
  | some s =>
    -- the first unknown scope is the error
    have hs := List.mem_of_find?_eq_some hfind
    have hunknown := List.find?_some hfind
    simp only [Bool.not_eq_eq_eq_not, Bool.not_true] at hunknown
    simp only [bind, Except.bind, throw, throwThe, MonadExceptOf.throw, reduceCtorEq,
      exists_false, false_iff, not_and]
    exact fun hknown => absurd (hknown s hs) (by simpa using hunknown)
  | none =>
    have hknown : ∀ x ∈ p.excludedScopes, x ∈ knownScopes := by
      intro x hx
      simpa using List.find?_eq_none.1 hfind x hx
    rw [and_iff_right hknown]
    cases Matcher.compile p.ignores <;> simp [bind, Except.bind, pure, Except.pure]

/-! ### Valid settings -/

/-- **Settings every rule can run under**: the dynamic-version policy, when the rule is on,
makes an auditor, and the options of each file rule that is on are valid. -/
structure Settings.Valid (s : Settings) : Prop where
  dynamic : ∀ rule, s.dynamicVersions = some rule → ∃ a, Auditor.new rule.options = .ok a
  filesExist : ∀ rule, s.requireFilesExist = some rule → rule.options.validate = .ok ()
  filesAbsent : ∀ rule, s.requireFilesAbsent = some rule → rule.options.validate = .ok ()

/-- The severities a rule table may name. -/
def knownSeverities : List String := ["info", "warning", "warn", "error"]

/-- A dynamic-version rule table **no audit can run with**: it is on and names an unknown
severity, an unknown scope to exclude, or an ignore pattern that is refused. -/
def DynamicTable.Faulty (t : DynamicTable) : Prop :=
  t.enabled ≠ some false ∧
    ((∃ sev, t.severity = some sev ∧ sev ∉ knownSeverities) ∨
      (∃ scopes, t.excludedScopes = some scopes ∧ ∃ x ∈ scopes, x ∉ knownScopes) ∨
      (∃ patterns, t.ignores = some patterns ∧ ∃ x ∈ patterns, Pattern.TextRefused x))

/-- A file rule table **no check can run with**: it is on and names an unknown severity, or
lists no file while empty entries are refused. -/
def FileTable.Faulty (t : FileTable) : Prop :=
  t.enabled ≠ some false ∧
    ((∃ sev, t.severity = some sev ∧ sev ∉ knownSeverities) ∨
      (t.files = [] ∧ t.allowNulls = false))

namespace Settings

/-- A severity is read exactly when it is a known one. -/
theorem exists_parseSeverity_eq_ok_iff (sev : String) :
    (∃ v, parseSeverity sev = .ok v) ↔ sev ∈ knownSeverities := by
  unfold parseSeverity
  split <;> simp_all [knownSeverities]

/-! ### One step per rule table -/

/-- **What the dynamic-version table makes**: nothing when it is off; otherwise it names a
known severity, if any, and a rule whose policy makes an auditor and excludes the scopes and
ignores the patterns the table lists. -/
theorem applyDynamic_eq_ok {pre : Option (RulePolicy DynamicPolicy)} {t : DynamicTable}
    {dflt : Severity} {r : Option (RulePolicy DynamicPolicy)}
    (h : applyDynamic pre t dflt = .ok r) :
    (t.enabled = some false ∧ r = none) ∨
      (t.enabled ≠ some false ∧ (∀ sev, t.severity = some sev → sev ∈ knownSeverities) ∧
        ∃ rule, r = some rule ∧ (∃ a, Auditor.new rule.options = .ok a) ∧
          (∀ scopes, t.excludedScopes = some scopes → rule.options.excludedScopes = scopes) ∧
          ∀ patterns, t.ignores = some patterns → rule.options.ignores = patterns) := by
  unfold applyDynamic at h
  by_cases hoff : t.enabled = some false
  · simp only [hoff, BEq.rfl, if_true, pure, Except.pure, Except.ok.injEq] at h
    exact .inl ⟨hoff, h.symm⟩
  simp only [beq_iff_eq, hoff, if_false] at h
  refine .inr ⟨hoff, fun sev hs => ?_, ?_⟩
  · -- a named severity is read before anything else
    simp only [hs] at h
    obtain ⟨v, hv, -⟩ := Except.bind_eq_ok.1 h
    exact (exists_parseSeverity_eq_ok_iff sev).1 ⟨v, hv⟩
  · -- whatever the severity, the rule carries the policy that was checked
    split at h <;> obtain ⟨sev, -, h⟩ := Except.bind_eq_ok.1 h <;> split at h <;>
      simp only [pure, Except.pure, Except.ok.injEq, reduceCtorEq] at h <;>
      exact ⟨_, h.symm, ⟨_, by assumption⟩, fun scopes hs => by simp [hs],
        fun patterns hp => by simp [hp]⟩

/-- **What a file table makes**: nothing when it is off; otherwise it names a known severity, if
any, and a rule with the table's files and empty-entry setting, whose options are valid. -/
theorem fileRule_eq_ok {t : FileTable} {dflt : Severity} {r : Option (RulePolicy FilePolicy)}
    (h : fileRule t dflt = .ok r) :
    (t.enabled = some false ∧ r = none) ∨
      (t.enabled ≠ some false ∧ (∀ sev, t.severity = some sev → sev ∈ knownSeverities) ∧
        ∃ rule, r = some rule ∧ rule.options.validate = .ok () ∧
          rule.options.files = t.files ∧ rule.options.allowNulls = t.allowNulls) := by
  unfold fileRule at h
  by_cases hoff : t.enabled = some false
  · simp only [hoff, BEq.rfl, if_true, pure, Except.pure, Except.ok.injEq] at h
    exact .inl ⟨hoff, h.symm⟩
  simp only [beq_iff_eq, hoff, if_false] at h
  refine .inr ⟨hoff, fun sev hs => ?_, ?_⟩
  · simp only [hs] at h
    obtain ⟨v, hv, -⟩ := Except.bind_eq_ok.1 h
    exact (exists_parseSeverity_eq_ok_iff sev).1 ⟨v, hv⟩
  · -- whatever the severity, the rule carries the options that were validated
    split at h <;> obtain ⟨sev, -, h⟩ := Except.bind_eq_ok.1 h <;> split at h <;>
      simp only [pure, Except.pure, Except.ok.injEq, reduceCtorEq] at h <;>
      exact ⟨_, h.symm, by assumption, rfl, rfl⟩

/-- A faulty dynamic-version table makes no rule. -/
theorem applyDynamic_ne_ok_of_faulty {pre : Option (RulePolicy DynamicPolicy)} {t : DynamicTable}
    {dflt : Severity} (ht : t.Faulty) (r : Option (RulePolicy DynamicPolicy)) :
    applyDynamic pre t dflt ≠ .ok r := by
  intro h
  obtain ⟨hoff, hfault⟩ := ht
  rcases applyDynamic_eq_ok h with ⟨hoff', -⟩ | ⟨-, hsev, rule, -, hauditor, hscopes, hignores⟩
  · exact hoff hoff'
  obtain ⟨hknown, hpatterns⟩ := (Auditor.exists_new_eq_ok_iff rule.options).1 hauditor
  rcases hfault with ⟨sev, hs, hbad⟩ | ⟨scopes, hs, x, hx, hbad⟩ | ⟨patterns, hp, x, hx, hbad⟩
  · exact hbad (hsev sev hs)
  · exact hbad (hknown x (hscopes scopes hs ▸ hx))
  · exact hpatterns x (hignores patterns hp ▸ hx) hbad

/-- A faulty file table makes no rule. -/
theorem fileRule_ne_ok_of_faulty {t : FileTable} {dflt : Severity} (ht : t.Faulty)
    (r : Option (RulePolicy FilePolicy)) : fileRule t dflt ≠ .ok r := by
  intro h
  obtain ⟨hoff, hfault⟩ := ht
  rcases fileRule_eq_ok h with ⟨hoff', -⟩ | ⟨-, hsev, rule, -, hvalid, hfiles, hnulls⟩
  · exact hoff hoff'
  rcases hfault with ⟨sev, hs, hbad⟩ | ⟨hempty, hrefused⟩
  · exact hbad (hsev sev hs)
  · simp [FilePolicy.validate, hfiles, hnulls, hempty, hrefused] at hvalid

/-! ### Resolving as a chain of steps -/

/-- `fail_on` replaces the profile's when the file sets it. -/
def setFailOn (s : Settings) : Option String → Except Failure Settings
  | some f => (fun failOn => { s with failOn }) <$> parseFailOn f
  | none => pure s

/-- The dynamic-version table, when there is one, replaces the profile's rule. -/
def setDynamic (dflt : Severity) (s : Settings) : Option DynamicTable → Except Failure Settings
  | some t => (fun rule => { s with dynamicVersions := rule }) <$>
      withContext "invalid configuration for deps.ban_dynamic_versions"
        (applyDynamic s.dynamicVersions t dflt)
  | none => pure s

/-- The table of files that must exist, when there is one, defines its rule. -/
def setFilesExist (dflt : Severity) (s : Settings) : Option FileTable → Except Failure Settings
  | some t => (fun rule => { s with requireFilesExist := rule }) <$>
      withContext "invalid configuration for files.require_exist" (fileRule t dflt)
  | none => pure s

/-- The table of files that must not exist, when there is one, defines its rule. -/
def setFilesAbsent (dflt : Severity) (s : Settings) : Option FileTable → Except Failure Settings
  | some t => (fun rule => { s with requireFilesAbsent := rule }) <$>
      withContext "invalid configuration for files.require_absent" (fileRule t dflt)
  | none => pure s

/-- The profile a configuration file runs under. -/
def profileOf (cfg : ConfigFile) (o : Overrides) : String :=
  (o.profile.orElse fun _ => cfg.profile).getD defaultProfile

/-- **Resolving is a profile's settings followed by one step per setting.** -/
theorem resolve_eq_of_preset {cfg : ConfigFile} {o : Overrides} {base : Settings}
    (h : preset? (profileOf cfg o) = some base) :
    resolve cfg o =
      ((({ base with tree := o.tree.orElse fun _ => cfg.tree } : Settings).setFailOn cfg.failOn >>=
        fun s => s.setDynamic base.defaultSeverity cfg.rules.banDynamicVersions) >>=
        fun s => s.setFilesExist base.defaultSeverity cfg.rules.requireFilesExist) >>=
        fun s => s.setFilesAbsent base.defaultSeverity cfg.rules.requireFilesDontExist := by
  unfold resolve
  unfold profileOf at h
  simp only [h]
  obtain ⟨schema, profile, failOn, tree, ⟨bdv, rfe, rfde⟩⟩ := cfg
  -- with every optional setting fixed, the two sides differ by the monad laws only
  cases failOn <;> cases bdv <;> cases rfe <;> cases rfde <;>
    simp only [setFailOn, setDynamic, setFilesExist, setFilesAbsent, bind_assoc, pure_bind,
      map_eq_pure_bind]

/-- An unknown profile resolves to nothing. -/
theorem resolve_eq_error_of_preset {cfg : ConfigFile} {o : Overrides}
    (h : preset? (profileOf cfg o) = none) : ∃ f, resolve cfg o = .error f := by
  unfold resolve
  unfold profileOf at h
  simp only [h]
  exact ⟨_, rfl⟩

/-- **The steps of a resolution that succeeded**: the profile is known and every step
succeeded. -/
theorem resolve_eq_ok {cfg : ConfigFile} {o : Overrides} {s : Settings}
    (h : resolve cfg o = .ok s) :
    ∃ base s₁ s₂ s₃, preset? (profileOf cfg o) = some base ∧
      ({ base with tree := o.tree.orElse fun _ => cfg.tree } : Settings).setFailOn cfg.failOn =
        .ok s₁ ∧
      s₁.setDynamic base.defaultSeverity cfg.rules.banDynamicVersions = .ok s₂ ∧
      s₂.setFilesExist base.defaultSeverity cfg.rules.requireFilesExist = .ok s₃ ∧
      s₃.setFilesAbsent base.defaultSeverity cfg.rules.requireFilesDontExist = .ok s := by
  cases hbase : preset? (profileOf cfg o) with
  | none =>
    obtain ⟨f, hf⟩ := resolve_eq_error_of_preset hbase
    rw [hf] at h
    cases h
  | some base =>
    rw [resolve_eq_of_preset hbase] at h
    obtain ⟨s₃, h₃, h⟩ := Except.bind_eq_ok.1 h
    obtain ⟨s₂, h₂, h₃⟩ := Except.bind_eq_ok.1 h₃
    obtain ⟨s₁, h₁, h₂⟩ := Except.bind_eq_ok.1 h₂
    exact ⟨base, s₁, s₂, s₃, rfl, h₁, h₂, h₃, h⟩

/-! ### Each step keeps the settings valid -/

theorem withContext_eq_ok {α : Type} {outer : String} {x : Except Failure α} {a : α} :
    withContext outer x = .ok a ↔ x = .ok a := by
  cases x <;> simp [withContext]

/-- A step over a rule table gives the rule the table makes. -/
theorem map_withContext_eq_ok {α : Type} {x : Except Failure α} {outer : String}
    {f : α → Settings} {s : Settings} (h : f <$> withContext outer x = .ok s) :
    ∃ a, x = .ok a ∧ f a = s := by
  cases x with
  | error e => cases h
  | ok a => exact ⟨a, rfl, Except.ok.inj h⟩

/-- The settings of every profile are valid: the rule each turns on excludes no scope and
ignores nothing. -/
theorem Valid.of_preset {name : String} {s : Settings} (h : preset? name = some s)
    (tree : Option String) : ({ s with tree } : Settings).Valid := by
  have hempty : ∃ a, Auditor.new ({} : DynamicPolicy) = .ok a := ⟨_, rfl⟩
  have hcompat : ∃ a,
      Auditor.new ({ allowSnapshots := true, allowIdenticalBounds := true } : DynamicPolicy) =
        .ok a := ⟨_, rfl⟩
  unfold preset? at h
  split at h <;> cases h <;>
    exact ⟨fun rule hr => by cases hr; assumption, fun _ hr => (by cases hr),
      fun _ hr => (by cases hr)⟩

theorem Valid.setFailOn {s s' : Settings} (hs : s.Valid) {f : Option String}
    (h : s.setFailOn f = .ok s') : s'.Valid := by
  cases f with
  | none => cases h; exact hs
  | some f =>
    cases hf : parseFailOn f with
    | error e => simp [Settings.setFailOn, hf] at h
    | ok failOn =>
      -- `fail_on` touches no rule
      simp only [Settings.setFailOn, hf] at h
      cases h
      exact ⟨hs.dynamic, hs.filesExist, hs.filesAbsent⟩

/-- The rule a dynamic-version table makes, if any, makes an auditor. -/
theorem applyDynamic_valid {pre : Option (RulePolicy DynamicPolicy)} {t : DynamicTable}
    {dflt : Severity} {r : Option (RulePolicy DynamicPolicy)}
    (h : applyDynamic pre t dflt = .ok r) :
    ∀ rule, r = some rule → ∃ a, Auditor.new rule.options = .ok a := by
  rintro rule rfl
  rcases applyDynamic_eq_ok h with ⟨-, hnone⟩ | ⟨-, -, rule', hsome, hauditor, -⟩
  · cases hnone
  · cases hsome
    exact hauditor

/-- The rule a file table makes, if any, passes validation. -/
theorem fileRule_valid {t : FileTable} {dflt : Severity} {r : Option (RulePolicy FilePolicy)}
    (h : fileRule t dflt = .ok r) : ∀ rule, r = some rule → rule.options.validate = .ok () := by
  rintro rule rfl
  rcases fileRule_eq_ok h with ⟨-, hnone⟩ | ⟨-, -, rule', hsome, hvalid, -⟩
  · cases hnone
  · cases hsome
    exact hvalid

theorem Valid.setDynamic {s s' : Settings} (hs : s.Valid) {dflt : Severity}
    {t : Option DynamicTable} (h : s.setDynamic dflt t = .ok s') : s'.Valid := by
  cases t with
  | none => cases h; exact hs
  | some t =>
    obtain ⟨r, hr, rfl⟩ := map_withContext_eq_ok h
    exact ⟨applyDynamic_valid hr, hs.filesExist, hs.filesAbsent⟩

theorem Valid.setFilesExist {s s' : Settings} (hs : s.Valid) {dflt : Severity}
    {t : Option FileTable} (h : s.setFilesExist dflt t = .ok s') : s'.Valid := by
  cases t with
  | none => cases h; exact hs
  | some t =>
    obtain ⟨r, hr, rfl⟩ := map_withContext_eq_ok h
    exact ⟨hs.dynamic, fileRule_valid hr, hs.filesAbsent⟩

theorem Valid.setFilesAbsent {s s' : Settings} (hs : s.Valid) {dflt : Severity}
    {t : Option FileTable} (h : s.setFilesAbsent dflt t = .ok s') : s'.Valid := by
  cases t with
  | none => cases h; exact hs
  | some t =>
    obtain ⟨r, hr, rfl⟩ := map_withContext_eq_ok h
    exact ⟨hs.dynamic, hs.filesExist, fileRule_valid hr⟩

/-- **Resolved settings are valid.** -/
theorem valid_of_resolve_eq_ok {cfg : ConfigFile} {o : Overrides} {s : Settings}
    (h : resolve cfg o = .ok s) : s.Valid := by
  obtain ⟨base, s₁, s₂, s₃, hbase, h₁, h₂, h₃, h₄⟩ := resolve_eq_ok h
  -- validity is carried from the profile's settings through the four steps
  have v₀ := Valid.of_preset hbase (o.tree.orElse fun _ => cfg.tree)
  have v₁ := v₀.setFailOn h₁
  have v₂ := v₁.setDynamic h₂
  have v₃ := v₂.setFilesExist h₃
  exact v₃.setFilesAbsent h₄

/-- **Settings that load are valid**: a run's rules are those of settings resolved from its
configuration text. -/
theorem valid_of_load_eq_ok {text : String} {o : Overrides} {s : Settings}
    (h : load text o = .ok s) : s.Valid := by
  unfold load at h
  simp only at h
  -- a blank text stands for the empty file; either way the file read is resolved
  split at h <;> obtain ⟨cfg, -, h⟩ := Except.bind_eq_ok.1 h <;>
    exact valid_of_resolve_eq_ok (withContext_eq_ok.1 h)

/-! ### Faulty tables are refused -/

/-- **A faulty rule table makes resolving fail.** -/
theorem resolve_eq_error_of_faulty {cfg : ConfigFile} {o : Overrides}
    (h : (∃ t, cfg.rules.banDynamicVersions = some t ∧ t.Faulty) ∨
      (∃ t, cfg.rules.requireFilesExist = some t ∧ t.Faulty) ∨
      (∃ t, cfg.rules.requireFilesDontExist = some t ∧ t.Faulty)) :
    ∃ f, resolve cfg o = .error f := by
  cases hres : resolve cfg o with
  | error f => exact ⟨f, rfl⟩
  | ok s =>
    exfalso
    obtain ⟨base, s₁, s₂, s₃, -, -, h₂, h₃, h₄⟩ := resolve_eq_ok hres
    -- the step over the faulty table cannot have succeeded
    rcases h with ⟨t, ht, hfault⟩ | ⟨t, ht, hfault⟩ | ⟨t, ht, hfault⟩
    · rw [ht] at h₂
      obtain ⟨r, hr, -⟩ := map_withContext_eq_ok h₂
      exact applyDynamic_ne_ok_of_faulty hfault r hr
    · rw [ht] at h₃
      obtain ⟨r, hr, -⟩ := map_withContext_eq_ok h₃
      exact fileRule_ne_ok_of_faulty hfault r hr
    · rw [ht] at h₄
      obtain ⟨r, hr, -⟩ := map_withContext_eq_ok h₄
      exact fileRule_ne_ok_of_faulty hfault r hr

/-- **Resolving settings checks every rule as the rule itself will.** Resolved settings, and so
the settings a run loads from any configuration text, are valid: the dynamic-version policy,
when that rule is on, makes an auditor, and the options of each file rule that is on pass
validation, so neither rule's own configuration check can fail in a run. Conversely,
resolving fails whenever a rule table that is on names an unknown severity, an unknown scope,
a refused ignore pattern, or no file while empty entries are refused. -/
theorem resolve_checks_rules (cfg : ConfigFile) (o : Overrides) :
    (∀ s, resolve cfg o = .ok s → s.Valid) ∧
    (∀ text s, load text o = .ok s → s.Valid) ∧
    ((∃ t, cfg.rules.banDynamicVersions = some t ∧ t.Faulty) ∨
      (∃ t, cfg.rules.requireFilesExist = some t ∧ t.Faulty) ∨
      (∃ t, cfg.rules.requireFilesDontExist = some t ∧ t.Faulty) →
      ∃ f, resolve cfg o = .error f) :=
  ⟨fun _ h => valid_of_resolve_eq_ok h, fun _ _ h => valid_of_load_eq_ok h,
    resolve_eq_error_of_faulty⟩

/-- The empty configuration resolves to valid settings, and a dynamic-version table that names
the unknown severity `fatal` is faulty and makes resolving fail. -/
theorem resolve_checks_rules_fatalSeverity :
    (∃ s, resolve {} {} = .ok s ∧ s.Valid) ∧
    DynamicTable.Faulty { severity := some "fatal" } ∧
    ∃ f, resolve { rules := { banDynamicVersions := some { severity := some "fatal" } } } {} =
      .error f := by
  have hfaulty : DynamicTable.Faulty { severity := some "fatal" } :=
    ⟨by simp, .inl ⟨"fatal", rfl, by simp [knownSeverities]⟩⟩
  obtain ⟨s, hs⟩ : ∃ s, resolve {} {} = .ok s := ⟨_, rfl⟩
  refine ⟨⟨s, hs, (resolve_checks_rules {} {}).1 s hs⟩, hfaulty, ?_⟩
  exact (resolve_checks_rules { rules := { banDynamicVersions := some { severity := some "fatal" } } }
    {}).2.2 (.inl ⟨_, rfl, hfaulty⟩)

end Settings

end PinAudit
