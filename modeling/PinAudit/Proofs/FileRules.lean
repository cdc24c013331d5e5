import PinAudit.Files.Check
import PinAudit.Files.World

/-!
# What a file rule reports

Checking a file rule looks each entry up in the file system and collects the entries that fail.
In a world (`World`) every request a look-up makes only reads (`ReadsOnly`), so a look-up leaves
the world as it found it (`FileChecker.readsOnly_lookUp`), and what it answers is a function of
the world: the *probe* of the path, whether it was found or the error the look-up met
(`FileChecker.probe`). A rule accepts a probe that found the path for `requireExist` and one
that missed it for `requireAbsent`; a probe that failed is accepted by neither
(`FileRuleKind.accepts`).

Checking a valid policy in a world leaves the world as it is and reports every entry
(`FileChecker.check_run`): it counts them all; the failures are, in entry order, one for each
empty entry while empty entries are refused and one for each other entry whose rule does not
accept its probe (`FileChecker.entryFailures`); and the rule passes when some entry did not fail
(with `satisfyAny`) or when none did. The code decides the first by comparing the number of
failures with the number of entries, which is right because no entry fails twice
(`length_flatMap_lt_iff`).

Main statement: `FileChecker.check_reports`.
-/

namespace PinAudit

/-! ### Computations that only read the world -/

/-- A computation over a world **only reads it**: it leaves every world as it found it. -/
def ReadsOnly {α : Type} (x : StateM World α) : Prop := ∀ w, (x.run w).2 = w

namespace ReadsOnly

variable {α β : Type}

theorem run_bind (x : StateM World α) (f : α → StateM World β) (w : World) :
    (x >>= f).run w = (f (x.run w).1).run (x.run w).2 := rfl

/-- A bind after a computation that kept the world runs its continuation in that world. -/
theorem run_bind_of_run {x : StateM World α} {f : α → StateM World β} {w : World} {a : α}
    (h : x.run w = (a, w)) : (x >>= f).run w = (f a).run w := by
  rw [run_bind, h]

theorem run_pure_bind (a : α) (f : α → StateM World β) (w : World) :
    (pure a >>= f).run w = (f a).run w := rfl

theorem of_pure (a : α) : ReadsOnly (pure a : StateM World α) := fun _ => rfl

theorem bind {x : StateM World α} {f : α → StateM World β} (hx : ReadsOnly x)
    (hf : ∀ a, ReadsOnly (f a)) : ReadsOnly (x >>= f) := by
  intro w
  rw [run_bind, hx w]
  exact hf _ w

end ReadsOnly

namespace FileChecker

/-! ### A look-up only reads -/

theorem readsOnly_status (p : String) : ReadsOnly (FileSystem.status p : StateM World _) :=
  fun _ => rfl

theorem readsOnly_linkStatus (p : String) :
    ReadsOnly (FileSystem.linkStatus p : StateM World _) :=
  fun _ => rfl

theorem readsOnly_realPath (p : String) : ReadsOnly (FileSystem.realPath p : StateM World _) :=
  fun _ => rfl

theorem readsOnly_listDir (p : String) : ReadsOnly (FileSystem.listDir p : StateM World _) :=
  fun _ => rfl

theorem readsOnly_pathExists (p : String) :
    ReadsOnly (FileSystem.pathExists p : StateM World Bool) :=
  (readsOnly_status p).bind fun r => by cases r <;> exact .of_pure _

theorem readsOnly_isSymlink (p : String) :
    ReadsOnly (FileSystem.isSymlink p : StateM World Bool) :=
  (readsOnly_linkStatus p).bind fun r => by split <;> exact .of_pure _

theorem readsOnly_holds (dir : String) (same : String → Bool) :
    ReadsOnly (holds dir same : StateM World _) :=
  (readsOnly_listDir dir).bind fun r => by cases r <;> exact .of_pure _

theorem readsOnly_byLowerName (path : String) : ReadsOnly (byLowerName path : StateM World _) := by
  unfold byLowerName
  split
  · refine (readsOnly_pathExists _).bind fun found => ?_
    split
    · exact (readsOnly_holds _ _).bind fun _ => .of_pure _
    · exact .of_pure _
  · exact .of_pure _

theorem readsOnly_byRealPath (path : String) : ReadsOnly (byRealPath path : StateM World _) := by
  unfold byRealPath
  refine (readsOnly_isSymlink _).bind fun link => ?_
  split
  · split
    · exact (readsOnly_holds _ _).bind fun _ => .of_pure _
    · exact .of_pure _
  · exact (readsOnly_realPath _).bind fun r => by split <;> exact .of_pure _

/-- **Looking a path up leaves the world as it was**, whichever way case is treated. -/
theorem readsOnly_lookUp (c : FileChecker) (path : String) (caseSensitive : Bool) :
    ReadsOnly (c.lookUp path caseSensitive : StateM World _) := by
  unfold lookUp
  split
  · exact (readsOnly_pathExists _).bind fun _ => .of_pure _
  · split
    · exact readsOnly_byLowerName path
    · exact readsOnly_byRealPath path

/-! ### The probe of a path and the failures of an entry -/

/-- **The probe of a path** in a world: whether the checker finds it under the rule's treatment
of case, or the error the look-up met. -/
def probe (c : FileChecker) (w : World) (path : String) (caseSensitive : Bool) :
    Except IoError Bool :=
  ((c.lookUp path caseSensitive : StateM World _).run w).1.2

end FileChecker

/-- Whether a rule **accepts a probe**: `requireExist` one that found the path, `requireAbsent`
one that did not; a probe that failed is accepted by neither rule. -/
def FileRuleKind.accepts : FileRuleKind → Except IoError Bool → Bool
  | .requireExist, .ok found => found
  | .requireAbsent, .ok found => !found
  | _, .error _ => false

/-- **The two rules on one probe**: both refuse it exactly when it failed, and otherwise exactly
one of them accepts it. -/
theorem FileRuleKind.accepts_laws (r : Except IoError Bool) :
    ((requireExist.accepts r = false ∧ requireAbsent.accepts r = false) ↔ ∃ e, r = .error e) ∧
      ∀ found, r = .ok found → (requireExist.accepts r = false ↔ requireAbsent.accepts r = true) := by
  cases r with
  | error e => exact ⟨iff_of_true ⟨rfl, rfl⟩ ⟨e, rfl⟩, fun _ h => by cases h⟩
  | ok found => cases found <;> simp [accepts]

/-! ### Counting failures -/

section Counting

variable {α β : Type} {f : α → List β}

/-- Entries that each fail at most once fail at most as often as there are entries. -/
theorem length_flatMap_le (hf : ∀ a, (f a).length ≤ 1) (es : List α) :
    (es.flatMap f).length ≤ es.length := by
  induction es with
  | nil => simp
  | cons e es ih =>
    rw [List.flatMap_cons, List.length_append, List.length_cons]
    have he := hf e
    omega

/-- **Fewer failures than entries means some entry did not fail**, when no entry fails twice. -/
theorem length_flatMap_lt_iff (hf : ∀ a, (f a).length ≤ 1) (es : List α) :
    (es.flatMap f).length < es.length ↔ ∃ e ∈ es, f e = [] := by
  induction es with
  | nil => simp
  | cons e es ih =>
    rw [List.flatMap_cons, List.length_append, List.length_cons]
    simp only [List.mem_cons, exists_eq_or_imp]
    have hle := length_flatMap_le hf es
    rcases Nat.le_one_iff_eq_zero_or_eq_one.1 (hf e) with h0 | h1
    · -- the first entry did not fail, and the others fail at most once each
      have hnil : f e = [] := List.eq_nil_of_length_eq_zero h0
      simp only [hnil, true_or, iff_true, List.length_nil]
      omega
    · -- the first entry failed once, so the count comes down to the others
      have hne : f e ≠ [] := fun h => by simp [h] at h1
      rw [h1, ← ih]
      simp only [hne, false_or]
      omega

/-- The count the check compares is whether some entry did not fail. -/
theorem decide_length_flatMap_lt (hf : ∀ a, (f a).length ≤ 1) (es : List α) :
    decide (es.length > (es.flatMap f).length) = es.any fun e => (f e).isEmpty := by
  rw [Bool.eq_iff_iff, decide_eq_true_iff, gt_iff_lt, length_flatMap_lt_iff hf, List.any_eq_true]
  simp

/-- No failure at all is no failure of any entry. -/
theorem isEmpty_flatMap (es : List α) :
    (es.flatMap f).isEmpty = es.all fun e => (f e).isEmpty := by
  rw [Bool.eq_iff_iff, List.isEmpty_iff, List.flatMap_eq_nil_iff, List.all_eq_true]
  simp

end Counting

namespace FileChecker

/-- **The failures of one entry** in a world: an empty entry is one failure unless empty entries
are allowed; any other entry is one failure when its rule does not accept the probe of its
path. -/
def entryFailures (c : FileChecker) (w : World) (kind : FileRuleKind) (p : FilePolicy)
    (entry : String) : List FileFailure :=
  if entry.isEmpty then (if p.allowNulls then [] else [.empty])
  else if kind.accepts (c.probe w (Path.join c.root entry) p.caseSensitive) then []
  else [.path entry (Path.join c.root entry)]

/-- **The outcome a rule reports** in a world: every entry counted, the failures of the entries
in order, and a pass when some entry did not fail (with `satisfyAny`) or none did. -/
def expectedOutcome (c : FileChecker) (w : World) (kind : FileRuleKind) (p : FilePolicy) :
    FileOutcome where
  kind := kind
  checked := p.files.length
  failures := p.files.flatMap (c.entryFailures w kind p)
  passed :=
    if p.satisfyAny then p.files.any fun e => (c.entryFailures w kind p e).isEmpty
    else p.files.all fun e => (c.entryFailures w kind p e).isEmpty

theorem failures_expectedOutcome (c : FileChecker) (w : World) (kind : FileRuleKind)
    (p : FilePolicy) :
    (c.expectedOutcome w kind p).failures = p.files.flatMap (c.entryFailures w kind p) := rfl

theorem length_entryFailures_le (c : FileChecker) (w : World) (kind : FileRuleKind)
    (p : FilePolicy) (entry : String) : (c.entryFailures w kind p entry).length ≤ 1 := by
  unfold entryFailures
  split
  · split <;> simp
  · split <;> simp

/-- A failed path names its entry, so it comes from that entry alone. -/
theorem mem_path_flatMap_iff {c : FileChecker} {w : World} {kind : FileRuleKind}
    {p : FilePolicy} {entries : List String} {e : String} (he : e ∈ entries) (hne : e ≠ "") :
    FileFailure.path e (Path.join c.root e) ∈ entries.flatMap (c.entryFailures w kind p) ↔
      kind.accepts (c.probe w (Path.join c.root e) p.caseSensitive) = false := by
  have hempty : e.isEmpty = false := by simpa using hne
  rw [List.mem_flatMap]
  constructor
  · rintro ⟨e', -, hmem⟩
    unfold entryFailures at hmem
    split at hmem
    · split at hmem <;> simp at hmem
    · split at hmem
      · simp at hmem
      · -- the failure names `e'`, so `e'` is `e`
        rename_i hacc
        simp only [List.mem_singleton, FileFailure.path.injEq] at hmem
        obtain ⟨rfl, -⟩ := hmem
        simpa using hacc
  · intro hacc
    refine ⟨e, he, ?_⟩
    simp [entryFailures, hempty, hacc]

/-! ### Running a check -/

/-- What the rule makes of one path: its probe, accepted or not, with the world unchanged. -/
theorem passes_run (c : FileChecker) (kind : FileRuleKind) (path : String) (caseSensitive : Bool)
    (w : World) : ∃ log, (c.passes kind path caseSensitive : StateM World _).run w =
      ((log, kind.accepts (c.probe w path caseSensitive)), w) := by
  unfold passes
  rw [ReadsOnly.run_bind, readsOnly_lookUp c path caseSensitive w]
  unfold probe
  obtain ⟨log, found⟩ := ((c.lookUp path caseSensitive : StateM World _).run w).1
  cases found with
  | error e => cases kind <;> exact ⟨_, rfl⟩
  | ok b => cases kind <;> exact ⟨_, rfl⟩

/-- **The failures of a list of entries** are those of each entry in turn, and the world is
unchanged; the induction is on the entries. -/
theorem failuresOf_run (c : FileChecker) (kind : FileRuleKind) (p : FilePolicy) (w : World)
    (entries : List String) : ∃ log, (c.failuresOf kind p entries : StateM World _).run w =
      ((log, entries.flatMap (c.entryFailures w kind p)), w) := by
  induction entries with
  | nil => exact ⟨[], rfl⟩
  | cons e rest ih =>
    obtain ⟨log', hrest⟩ := ih
    unfold failuresOf
    dsimp only
    rw [List.flatMap_cons, entryFailures]
    by_cases hempty : e.isEmpty
    · -- an empty entry is not looked up
      refine ⟨[] ++ log', ?_⟩
      rw [if_pos hempty, if_pos hempty, ReadsOnly.run_pure_bind, ReadsOnly.run_bind_of_run hrest]
      rfl
    · obtain ⟨log, hpass⟩ := c.passes_run kind (Path.join c.root e) p.caseSensitive w
      refine ⟨log ++ log', ?_⟩
      rw [if_neg hempty, if_neg hempty, ReadsOnly.run_bind_of_run hpass, ReadsOnly.run_pure_bind,
        ReadsOnly.run_bind_of_run hrest]
      rfl

/-- **Checking a valid policy** in a world reports the expected outcome and leaves the world as it
was. -/
theorem check_run (c : FileChecker) (kind : FileRuleKind) (p : FilePolicy)
    (hp : p.validate = .ok ()) (w : World) :
    ∃ log, (c.check kind p : StateM World _).run w =
      ((log, .ok (c.expectedOutcome w kind p)), w) := by
  obtain ⟨log, hrun⟩ := c.failuresOf_run kind p w p.files
  refine ⟨log, ?_⟩
  unfold check
  rw [hp]
  dsimp only
  rw [ReadsOnly.run_bind_of_run hrun]
  show ((log, Except.ok (⟨kind, p.files.length, _, _⟩ : FileOutcome)), w) =
    ((log, Except.ok (c.expectedOutcome w kind p)), w)
  unfold expectedOutcome
  congr 4
  -- the code compares counts where the outcome asks about entries
  dsimp only
  cases p.satisfyAny with
  | false =>
    simp only [Bool.false_eq_true, if_false, Bool.decide_eq_true]
    exact isEmpty_flatMap p.files
  | true =>
    simp only [if_true]
    exact decide_length_flatMap_lt (c.length_entryFailures_le w kind p) p.files

/-- **What checking a file rule reports.** For a valid policy and any world, checking either rule
returns, with the world unchanged, an outcome that counts every entry, lists in entry order one
failure per empty entry while empty entries are refused and one per other entry whose rule does
not accept its probe, and passes when some entry did not fail (with `satisfyAny`) or when none
did. Of the two rules, both fail a non-empty entry exactly when its probe failed, and otherwise
exactly one of them fails it. -/
theorem check_reports (c : FileChecker) (p : FilePolicy) (hp : p.validate = .ok ()) (w : World) :
    (∀ kind, ∃ log, (c.check kind p : StateM World _).run w =
      ((log, .ok (c.expectedOutcome w kind p)), w)) ∧
    ∀ e ∈ p.files, e ≠ "" →
      ((FileFailure.path e (Path.join c.root e) ∈ (c.expectedOutcome w .requireExist p).failures ∧
          FileFailure.path e (Path.join c.root e) ∈
            (c.expectedOutcome w .requireAbsent p).failures) ↔
        ∃ err, c.probe w (Path.join c.root e) p.caseSensitive = .error err) ∧
      ∀ found, c.probe w (Path.join c.root e) p.caseSensitive = .ok found →
        (FileFailure.path e (Path.join c.root e) ∈ (c.expectedOutcome w .requireExist p).failures ↔
          FileFailure.path e (Path.join c.root e) ∉
            (c.expectedOutcome w .requireAbsent p).failures) := by
  refine ⟨fun kind => c.check_run kind p hp w, fun e he hne => ?_⟩
  -- an entry's failed path is in a rule's failures exactly when the rule refuses its probe
  rw [failures_expectedOutcome, failures_expectedOutcome, mem_path_flatMap_iff he hne,
    mem_path_flatMap_iff he hne]
  obtain ⟨hboth, hone⟩ :=
    FileRuleKind.accepts_laws (c.probe w (Path.join c.root e) p.caseSensitive)
  refine ⟨hboth, fun found hfound => ?_⟩
  rw [hone found hfound, Bool.not_eq_false]

/-- One file in a repository that holds nothing, read with exact case on a case-sensitive
system. -/
theorem check_reports_oneFile :
    FilePolicy.validate { files := ["README.md"] } = .ok () ∧
    ((∀ kind, ∃ log,
        ((⟨"/repo", true⟩ : FileChecker).check kind { files := ["README.md"] } :
          StateM World _).run (World.rooted ["repo"]) =
        ((log, .ok ((⟨"/repo", true⟩ : FileChecker).expectedOutcome (World.rooted ["repo"]) kind
          { files := ["README.md"] })), World.rooted ["repo"])) ∧
      ∀ e ∈ ({ files := ["README.md"] } : FilePolicy).files, e ≠ "" →
        ((FileFailure.path e (Path.join "/repo" e) ∈ ((⟨"/repo", true⟩ : FileChecker).expectedOutcome
              (World.rooted ["repo"]) .requireExist { files := ["README.md"] }).failures ∧
            FileFailure.path e (Path.join "/repo" e) ∈ ((⟨"/repo", true⟩ : FileChecker).expectedOutcome
              (World.rooted ["repo"]) .requireAbsent { files := ["README.md"] }).failures) ↔
          ∃ err, (⟨"/repo", true⟩ : FileChecker).probe (World.rooted ["repo"]) (Path.join "/repo" e)
            true = .error err) ∧
        ∀ found, (⟨"/repo", true⟩ : FileChecker).probe (World.rooted ["repo"]) (Path.join "/repo" e)
            true = .ok found →
          (FileFailure.path e (Path.join "/repo" e) ∈ ((⟨"/repo", true⟩ : FileChecker).expectedOutcome
              (World.rooted ["repo"]) .requireExist { files := ["README.md"] }).failures ↔
            FileFailure.path e (Path.join "/repo" e) ∉ ((⟨"/repo", true⟩ : FileChecker).expectedOutcome
              (World.rooted ["repo"]) .requireAbsent { files := ["README.md"] }).failures)) :=
  ⟨rfl, check_reports ⟨"/repo", true⟩ { files := ["README.md"] } rfl (World.rooted ["repo"])⟩

end FileChecker

end PinAudit
