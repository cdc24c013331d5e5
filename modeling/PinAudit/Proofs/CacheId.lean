import Mathlib.Data.List.Sort
import Mathlib.Data.String.Basic
import PinAudit.Audit.Fingerprint
import PinAudit.Proofs.Audit

/-!
# Cache ids of policies

A policy's cache id hashes a canonical text: the six toggles as `1` or `0`, the excluded scopes
and the ignore patterns each sorted without repeats and joined by `,`, and the root's
coordinates, the fields separated by `;` and named before `=`.

Sorting without repeats is a canonical form for sets of texts: two lists give the same sorted
list exactly when they have the same entries (`sortedUnique_eq_iff`). So two policies with the
same settings, in any order and with any repeats, have the same canonical text for the same
root (`DynamicPolicy.canonical_eq_of_sameSettings`).

The converse needs the entries to keep clear of the separators. An ignore pattern may hold a
comma, and then the join is ambiguous: the patterns `a,b` and the two patterns `a` and `b`
give the same text, although their audits differ (`DynamicPolicy.canonical_comma_collision`).
When every entry is non-empty and holds neither `,` nor `;`, the canonical text can be read
back field by field (`DynamicPolicy.sameSettings_of_canonical_eq`), and then two policies that
share it audit every tree alike (`Auditor.audit_eq_of_sameSettings`).

Main statements: `DynamicPolicy.canonical_laws`, `DynamicPolicy.canonical_comma_collision`.
-/

namespace PinAudit

/-! ### Sorted lists without repeats -/

/-- Removing repeats from a sorted list leaves it strictly sorted. -/
theorem pairwise_lt_eraseDups : ∀ (l : List String), l.Pairwise (· ≤ ·) →
    l.eraseDups.Pairwise (· < ·)
  | [], _ => by simp [List.eraseDups]
  | a :: as, h => by
    rw [List.eraseDups_cons]
    have hrest : (as.filter fun b => !b == a).Pairwise (· ≤ ·) :=
      (List.pairwise_cons.1 h).2.sublist List.filter_sublist
    refine List.pairwise_cons.2 ⟨fun b hb => ?_, pairwise_lt_eraseDups _ hrest⟩
    -- what is left after `a` comes after `a` in the sorted list and differs from it
    rw [List.mem_eraseDups, List.mem_filter] at hb
    obtain ⟨hb, hne⟩ := hb
    have hab : a ≤ b := (List.pairwise_cons.1 h).1 b hb
    exact lt_of_le_of_ne hab fun hab => by simp [hab] at hne
termination_by l => l.length
decreasing_by exact Nat.lt_succ_of_le (List.length_filter_le _ _)

theorem pairwise_sortedUnique (xs : List String) : (sortedUnique xs).Pairwise (· < ·) :=
  pairwise_lt_eraseDups _ (List.pairwise_mergeSort' (· ≤ ·) xs)

theorem mem_sortedUnique {x : String} {xs : List String} : x ∈ sortedUnique xs ↔ x ∈ xs := by
  rw [sortedUnique, List.mem_eraseDups, (List.mergeSort_perm xs _).mem_iff]

/-- **Sorting without repeats is a canonical form for sets of texts.** -/
theorem sortedUnique_eq_iff {xs ys : List String} :
    sortedUnique xs = sortedUnique ys ↔ ∀ x, x ∈ xs ↔ x ∈ ys := by
  constructor
  · intro h x
    rw [← mem_sortedUnique, h, mem_sortedUnique]
  · intro h
    refine (pairwise_sortedUnique xs).eq_of_mem_iff (pairwise_sortedUnique ys) fun x => ?_
    rw [mem_sortedUnique, mem_sortedUnique, h]

/-! ### Settings and canonical texts -/

/-- Two policies **have the same settings**: the same six toggles, and the same excluded scopes
and ignore patterns, whatever their order and repeats. -/
structure DynamicPolicy.SameSettings (p q : DynamicPolicy) : Prop where
  snapshots_eq : p.allowSnapshots = q.allowSnapshots
  latest_eq : p.allowLatest = q.allowLatest
  release_eq : p.allowRelease = q.allowRelease
  ranges_eq : p.allowRanges = q.allowRanges
  identical_eq : p.allowIdenticalBounds = q.allowIdenticalBounds
  optionals_eq : p.excludeOptionals = q.excludeOptionals
  scopes_iff : ∀ x, x ∈ p.excludedScopes ↔ x ∈ q.excludedScopes
  ignores_iff : ∀ x, x ∈ p.ignores ↔ x ∈ q.ignores

/-- The text a root contributes to the canonical text: its coordinates, or nothing. -/
def rootText (root : Option Coordinate) : String := (root.map Coordinate.display).getD ""

/-- **The canonical text does not see order or repeats**: policies with the same settings have
the same canonical text for roots with the same coordinates. -/
theorem DynamicPolicy.canonical_eq_of_sameSettings {p q : DynamicPolicy} (h : p.SameSettings q)
    {r s : Option Coordinate} (hroot : rootText r = rootText s) :
    p.canonical r = q.canonical s := by
  have hscopes := sortedUnique_eq_iff.2 h.scopes_iff
  have hignores := sortedUnique_eq_iff.2 h.ignores_iff
  unfold rootText at hroot
  unfold DynamicPolicy.canonical
  rw [h.snapshots_eq, h.latest_eq, h.release_eq, h.ranges_eq, h.identical_eq, h.optionals_eq,
    hscopes, hignores, hroot]

/-! ### Reading the canonical text back -/

/-- An entry **fits the canonical text** when it is not empty and holds neither of its
separators `,` and `;`. -/
def CanonicalEntry (x : String) : Prop := x ≠ "" ∧ ',' ∉ x.toList ∧ ';' ∉ x.toList

/-- Every excluded scope and ignore pattern of the policy fits the canonical text. -/
def DynamicPolicy.CanonicalEntries (p : DynamicPolicy) : Prop :=
  ∀ x ∈ p.excludedScopes ++ p.ignores, CanonicalEntry x

/-- Two texts cut at the first occurrence of a character that neither first part holds are cut
alike. -/
theorem append_cons_cancel {c : Char} :
    ∀ {x x' y y' : List Char}, c ∉ x → c ∉ x' → x ++ c :: y = x' ++ c :: y' → x = x' ∧ y = y'
  | [], [], _, _, _, _, h => ⟨rfl, by simpa using h⟩
  | [], a :: x', _, _, _, hx', h => by
    obtain ⟨rfl, -⟩ := List.cons.inj h
    exact absurd List.mem_cons_self hx'
  | a :: x, [], _, _, hx, _, h => by
    obtain ⟨rfl, -⟩ := List.cons.inj h
    exact absurd List.mem_cons_self hx
  | a :: x, b :: x', _, _, hx, hx', h => by
    simp only [List.cons_append, List.cons.injEq] at h
    obtain ⟨rfl, htail⟩ := h
    obtain ⟨rfl, rfl⟩ := append_cons_cancel (fun hc => hx (List.mem_cons_of_mem _ hc))
      (fun hc => hx' (List.mem_cons_of_mem _ hc)) htail
    exact ⟨rfl, rfl⟩

/-- A character that is not the separator and is in no part is not in their join. -/
theorem not_mem_intercalate {c sep : Char} (hc : c ≠ sep) :
    ∀ {ls : List (List Char)}, (∀ l ∈ ls, c ∉ l) → c ∉ [sep].intercalate ls
  | [], _ => by simp
  | [l], h => by simpa using h l (by simp)
  | l :: l' :: zs, h => by
    rw [List.intercalate_cons_cons]
    simp only [List.mem_append, List.mem_singleton, not_or]
    exact ⟨⟨h l List.mem_cons_self, hc⟩,
      not_mem_intercalate hc fun l hl => h l (List.mem_cons_of_mem _ hl)⟩

/-- Splitting a join of entries at the separator gives the entries back; no entries join to
the empty text, which splits into one empty part. -/
theorem splitOn_join {xs : List String} (hx : ∀ x ∈ xs, CanonicalEntry x) :
    (",".intercalate xs).toList.splitOn ',' = if xs = [] then [[]] else xs.map String.toList := by
  rw [String.toList_intercalate]
  split
  · subst xs
    rfl
  · rename_i hne
    refine List.splitOn_intercalate ',' (fun l hl => ?_) (by simpa using hne)
    obtain ⟨x, hx', rfl⟩ := List.mem_map.1 hl
    exact (hx x hx').2.1

/-- **Joining entries that fit the canonical text is injective.** -/
theorem join_injective {xs ys : List String} (hx : ∀ x ∈ xs, CanonicalEntry x)
    (hy : ∀ y ∈ ys, CanonicalEntry y)
    (h : (",".intercalate xs).toList = (",".intercalate ys).toList) : xs = ys := by
  have hsplit := congrArg (List.splitOn ',') h
  rw [splitOn_join hx, splitOn_join hy] at hsplit
  -- the empty join splits into one empty part, which no entry is
  have hnil : ∀ zs : List String, (∀ z ∈ zs, CanonicalEntry z) → zs ≠ [] →
      zs.map String.toList ≠ [[]] := by
    intro zs hz hne hmap
    obtain ⟨z, rfl⟩ : ∃ z, zs = [z] := by
      cases zs with
      | nil => exact absurd rfl hne
      | cons z zs' => exact ⟨z, by simp at hmap; simp [hmap.2]⟩
    exact (hz z (by simp)).1 (String.toList_inj.1 (by simpa using hmap))
  by_cases hxs : xs = [] <;> by_cases hys : ys = [] <;> simp only [hxs, hys, if_true,
    if_false] at hsplit
  · rw [hxs, hys]
  · exact absurd hsplit.symm (hnil ys hy hys)
  · exact absurd hsplit (hnil xs hx hxs)
  · exact List.map_injective_iff.2 (fun _ _ => String.toList_inj.1) hsplit

theorem semicolon_not_mem_join {xs : List String} (hx : ∀ x ∈ xs, CanonicalEntry x) :
    ';' ∉ (",".intercalate xs).toList := by
  rw [String.toList_intercalate]
  refine not_mem_intercalate (by decide) fun l hl => ?_
  obtain ⟨x, hx', rfl⟩ := List.mem_map.1 hl
  exact (hx x hx').2.2

theorem flag_toList (b : Bool) : (if b = true then "1" else "0").toList = [if b then '1' else '0'] := by
  cases b <;> rfl

theorem flag_injective {a b : Bool} (h : (if a then '1' else '0') = if b then '1' else '0') :
    a = b := by
  cases a <;> cases b <;> simp_all

/-- The sorted scopes of a policy whose entries are canonical are canonical entries. -/
theorem DynamicPolicy.CanonicalEntries.sorted_scopes {p : DynamicPolicy} (h : p.CanonicalEntries) :
    ∀ x ∈ sortedUnique p.excludedScopes, CanonicalEntry x :=
  fun x hx => h x (List.mem_append_left _ (mem_sortedUnique.1 hx))

/-- The sorted patterns of a policy whose entries are canonical are canonical entries. -/
theorem DynamicPolicy.CanonicalEntries.sorted_ignores {p : DynamicPolicy} (h : p.CanonicalEntries) :
    ∀ x ∈ sortedUnique p.ignores, CanonicalEntry x :=
  fun x hx => h x (List.mem_append_right _ (mem_sortedUnique.1 hx))

/-- **The canonical text can be read back** when every entry fits it: two policies with such
entries that have the same canonical text have the same settings and roots with the same
coordinates. The flags sit at fixed places; each list ends at the first `;` after it. -/
theorem DynamicPolicy.sameSettings_of_canonical_eq {p q : DynamicPolicy}
    (hp : p.CanonicalEntries) (hq : q.CanonicalEntries) {r s : Option Coordinate}
    (h : p.canonical r = q.canonical s) : p.SameSettings q ∧ rootText r = rootText s := by
  unfold DynamicPolicy.canonical at h
  rw [← String.toList_inj] at h
  -- the six flags come first, each after its fixed name
  simp only [String.toList_append, flag_toList, List.append_assoc, List.append_cancel_left_eq,
    List.cons_append, List.cons.injEq] at h
  obtain ⟨h₁, h₂, h₃, h₄, h₅, h₆, hlists⟩ := h
  -- then the scopes up to the first `;`, the patterns up to the next, and the root
  rw [show ";ignores=".toList = ';' :: "ignores=".toList from rfl,
    show ";root=".toList = ';' :: "root=".toList from rfl] at hlists
  simp only [List.cons_append] at hlists
  obtain ⟨hscopes, hlists⟩ := append_cons_cancel (semicolon_not_mem_join hp.sorted_scopes)
    (semicolon_not_mem_join hq.sorted_scopes) hlists
  rw [List.append_cancel_left_eq] at hlists
  obtain ⟨hignores, hroot⟩ := append_cons_cancel (semicolon_not_mem_join hp.sorted_ignores)
    (semicolon_not_mem_join hq.sorted_ignores) hlists
  rw [List.append_cancel_left_eq] at hroot
  refine ⟨⟨flag_injective h₁, flag_injective h₂, flag_injective h₃, flag_injective h₄,
    flag_injective h₅, flag_injective h₆, ?_, ?_⟩, String.toList_inj.1 hroot⟩
  · exact sortedUnique_eq_iff.1 (join_injective hp.sorted_scopes hq.sorted_scopes hscopes)
  · exact sortedUnique_eq_iff.1 (join_injective hp.sorted_ignores hq.sorted_ignores hignores)

/-! ### Policies with the same settings audit alike -/

section SameSettings

variable {p q : DynamicPolicy}

/-- The policies pass over the same dependencies: scopes and patterns are looked up by
membership only. -/
theorem DynamicPolicy.excludes_eq_of_sameSettings (h : p.SameSettings q) :
    p.excludes = q.excludes := by
  funext d
  have hscope : p.excludedScopes.contains d.scope = q.excludedScopes.contains d.scope := by
    rw [Bool.eq_iff_iff, List.contains_iff_mem, List.contains_iff_mem]
    exact h.scopes_iff d.scope
  have hignore : p.ignoresDependency d = q.ignoresDependency d := by
    rw [Bool.eq_iff_iff, DynamicPolicy.ignoresDependency, DynamicPolicy.ignoresDependency,
      List.any_eq_true, List.any_eq_true]
    exact exists_congr fun x => and_congr_left fun _ => h.ignores_iff x
  rw [DynamicPolicy.excludes, DynamicPolicy.excludes, hscope, hignore, h.optionals_eq]

/-- The policies classify alike: classification reads the toggles only. -/
theorem classify_eq_of_sameSettings (h : p.SameSettings q) (c : Constraint) :
    classify c p = classify c q := by
  have hallows : p.allows c = q.allows c := by
    funext k
    cases k <;> simp [DynamicPolicy.allows, h.snapshots_eq, h.latest_eq, h.release_eq,
      h.ranges_eq, h.identical_eq]
  simp only [classify, hallows]

/-- **Policies with the same settings expect the same report of every tree.** -/
theorem DynamicPolicy.expectedReport_eq_of_sameSettings (h : p.SameSettings q) (root : Node) :
    p.expectedReport root = q.expectedReport root := by
  have hbanned : p.bannedKind? = q.bannedKind? := by
    funext d
    rw [DynamicPolicy.bannedKind?, DynamicPolicy.bannedKind?, classify_eq_of_sameSettings h]
  have hexcl := DynamicPolicy.excludes_eq_of_sameSettings h
  have hstops : p.stops = q.stops := by
    funext d
    rw [DynamicPolicy.stops, DynamicPolicy.stops, hexcl, hbanned]
  have hviolation : p.violationAt? = q.violationAt? := by
    funext e
    rw [DynamicPolicy.violationAt?, DynamicPolicy.violationAt?, hexcl, hbanned]
  have hunrec : p.unrecognizedAt = q.unrecognizedAt := by
    funext e
    rw [DynamicPolicy.unrecognizedAt, DynamicPolicy.unrecognizedAt, hexcl,
      classify_eq_of_sameSettings h]
  simp only [DynamicPolicy.expectedReport, DynamicPolicy.findings, DynamicPolicy.visited,
    hstops, hviolation, hunrec]

/-- **Auditors made from policies with the same settings report alike on every tree.** -/
theorem Auditor.audit_eq_of_sameSettings {a b : Auditor} (ha : Auditor.new p = .ok a)
    (hb : Auditor.new q = .ok b) (h : p.SameSettings q) (root : Node) :
    (a.audit root).2 = (b.audit root).2 := by
  rw [Auditor.audit_report (Auditor.follows_of_new ha), Auditor.audit_report (Auditor.follows_of_new hb),
    DynamicPolicy.expectedReport_eq_of_sameSettings h]

end SameSettings

/-! ### The laws of the canonical text -/

/-- **What the canonical text of a policy tells apart.** Policies with the same settings, in
any order and with any repeats, have the same canonical text for roots with the same
coordinates. When every excluded scope and ignore pattern is non-empty and holds neither `,`
nor `;`, the converse holds too, and two valid policies that share the canonical text audit
every tree alike. -/
theorem DynamicPolicy.canonical_laws (p q : DynamicPolicy) (r s : Option Coordinate) :
    (p.SameSettings q → rootText r = rootText s → p.canonical r = q.canonical s) ∧
    (p.CanonicalEntries → q.CanonicalEntries → p.canonical r = q.canonical s →
      p.SameSettings q ∧ rootText r = rootText s) ∧
    (∀ a b : Auditor, Auditor.new p = .ok a → Auditor.new q = .ok b → p.CanonicalEntries →
      q.CanonicalEntries → p.canonical r = q.canonical s →
      ∀ root, (a.audit root).2 = (b.audit root).2) := by
  refine ⟨fun h hroot => canonical_eq_of_sameSettings h hroot,
    fun hp hq h => sameSettings_of_canonical_eq hp hq h, ?_⟩
  intro a b ha hb hp hq h root
  exact Auditor.audit_eq_of_sameSettings ha hb (sameSettings_of_canonical_eq hp hq h).1 root

/-- The excluded scopes `test` and `provided`, in two orders and once with a repeat: the two
policies make auditors, have the same settings and one canonical text, and their auditors report
alike on every tree. -/
theorem DynamicPolicy.canonical_laws_scopeOrder :
    Auditor.new { excludedScopes := ["test", "provided"] } =
      .ok ⟨{ excludedScopes := ["test", "provided"] }, ⟨[]⟩⟩ ∧
    Auditor.new { excludedScopes := ["provided", "test", "test"] } =
      .ok ⟨{ excludedScopes := ["provided", "test", "test"] }, ⟨[]⟩⟩ ∧
    DynamicPolicy.SameSettings { excludedScopes := ["test", "provided"] }
      { excludedScopes := ["provided", "test", "test"] } ∧
    DynamicPolicy.canonical { excludedScopes := ["test", "provided"] } none =
      DynamicPolicy.canonical { excludedScopes := ["provided", "test", "test"] } none ∧
    ∀ root, ((⟨{ excludedScopes := ["test", "provided"] }, ⟨[]⟩⟩ : Auditor).audit root).2 =
      ((⟨{ excludedScopes := ["provided", "test", "test"] }, ⟨[]⟩⟩ : Auditor).audit root).2 := by
  have hsame : DynamicPolicy.SameSettings { excludedScopes := ["test", "provided"] }
      { excludedScopes := ["provided", "test", "test"] } :=
    ⟨rfl, rfl, rfl, rfl, rfl, rfl, fun x => by simp [or_comm], fun _ => Iff.rfl⟩
  have hp : DynamicPolicy.CanonicalEntries { excludedScopes := ["test", "provided"] } := by
    simp [DynamicPolicy.CanonicalEntries, CanonicalEntry]
  have hq : DynamicPolicy.CanonicalEntries { excludedScopes := ["provided", "test", "test"] } := by
    simp [DynamicPolicy.CanonicalEntries, CanonicalEntry]
  have h := DynamicPolicy.canonical_laws { excludedScopes := ["test", "provided"] }
    { excludedScopes := ["provided", "test", "test"] } none none
  have hcanon := h.1 hsame rfl
  exact ⟨rfl, rfl, hsame, hcanon, h.2.2 _ _ rfl rfl hp hq hcanon⟩

/-- **An ignore pattern with a comma collides**: the single pattern `a,b` and the two patterns
`a` and `b` give the same canonical text, although they do not ignore the same dependencies. -/
theorem DynamicPolicy.canonical_comma_collision :
    DynamicPolicy.canonical { ignores := ["a,b"] } none =
      DynamicPolicy.canonical { ignores := ["a", "b"] } none ∧
    ¬ DynamicPolicy.SameSettings { ignores := ["a,b"] } { ignores := ["a", "b"] } := by
  have hsorted : sortedUnique ["a", "b"] = ["a", "b"] := by
    rw [sortedUnique, List.mergeSort_eq_self (r := (· ≤ ·)) (l := ["a", "b"]) (by decide)]
    decide
  have hsingle : sortedUnique ["a,b"] = ["a,b"] := by
    rw [sortedUnique, List.mergeSort_singleton]
    decide
  have hjoin : ",".intercalate ["a,b"] = ",".intercalate ["a", "b"] := by decide
  refine ⟨?_, fun h => ?_⟩
  · unfold DynamicPolicy.canonical
    rw [hsorted, hsingle, hjoin]
  · have ha := (h.ignores_iff "a").2 (by simp)
    simp at ha

end PinAudit
