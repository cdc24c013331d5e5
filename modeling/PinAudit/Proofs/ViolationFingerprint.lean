import PinAudit.Run
import PinAudit.Proofs.CacheId

/-!
# Fingerprints of violations

A violation's fingerprint hashes a canonical text: the check and the code, the dependency as
displayed (`group:artifact:type[:classifier]:version (scope[?])`) and the path of its ancestors
as its message shows it (`a -> b -> c`, empty for a direct dependency), joined by `|`. The text
reads nothing of a violation but its dependency and its path.

The displays join fields with `:`, ` (`, `?`, ` -> ` and `|` and escape nothing, while a tree
document may put any text in any field. So violations with different dependencies can share the
text: the group `a:b` with the artifact `c` displays as the group `a` with the artifact `b:c`,
and one audit reports both with one fingerprint (`Violation.fingerprint_colon_collision`). When
no field holds one of the separating characters, the text is read back field by field
(`Violation.eq_of_fingerprintText_eq`): each part ends at the first `|`, a dependency's
coordinates at the first `(`, a path's coordinates at each `>`, and coordinates split at `:`
into four fields, or five when there is a classifier.

Main statements: `Violation.fingerprintText_laws`, `Violation.fingerprint_colon_collision`.
-/

namespace PinAudit

/-! ### The canonical text -/

/-- **The canonical text a violation's fingerprint hashes**: the check, the code, the dependency
as displayed and the path as the violation's message shows it, joined by `|`. -/
def Violation.fingerprintText (check code : String) (v : Violation) : String :=
  "|".intercalate [check, code, v.dependency.display, v.dumpPath.getD ""]

/-- A fingerprint is the digest of the canonical text, whatever the digest. -/
theorem Violation.fingerprint_eq_digest (check code : String) (v : Violation)
    (digest : String → String) :
    v.fingerprint check code digest = digest (v.fingerprintText check code) := rfl

/-- The characters the displays in a fingerprint's text set fields apart with: `:` inside
coordinates, `(` before a scope, `?` after an optional one, `>` in the arrows of a path, and `|`
between the parts. -/
def displaySeparators : List Char := [':', '|', '(', '?', '>']

/-- A field **keeps clear of the separators** when it holds none of them. -/
def ClearField (x : String) : Prop := ∀ c ∈ x.toList, c ∉ displaySeparators

theorem ClearField.not_mem {x : String} (h : ClearField x) {c : Char}
    (hc : c ∈ displaySeparators) : c ∉ x.toList :=
  fun hx => h c hx hc

/-- Every field of the coordinates keeps clear of the separators. -/
structure Coordinate.ClearFields (c : Coordinate) : Prop where
  group : ClearField c.group
  artifact : ClearField c.artifact
  extension : ClearField c.extension
  classifier : ClearField c.classifier
  version : ClearField c.version

/-- The coordinates and the scope of the dependency keep clear of the separators. -/
structure Dependency.ClearFields (d : Dependency) : Prop where
  coordinate : d.coordinate.ClearFields
  scope : ClearField d.scope

/-- The dependency and every coordinate of the path keep clear of the separators. -/
structure Violation.ClearFields (v : Violation) : Prop where
  dependency : v.dependency.ClearFields
  path : ∀ c ∈ v.path, c.ClearFields

/-! ### Joins with a marked separator -/

/-- The first part of a join starts it. -/
theorem prefix_intercalate (sep x : List Char) (xs : List (List Char)) :
    x <+: sep.intercalate (x :: xs) := by
  cases xs with
  | nil => simp
  | cons x' xs =>
    rw [List.intercalate_cons_cons, List.append_assoc]
    exact List.prefix_append _ _

/-- **A join is read back at its separators** when its parts are not empty and a character of
the separator, found there once, is in no part: the first part ends where that character first
appears. -/
theorem intercalate_inj {m : Char} {u w : List Char} (hu : m ∉ u) (hw : m ∉ w) :
    ∀ {xs ys : List (List Char)}, (∀ x ∈ xs, x ≠ [] ∧ m ∉ x) → (∀ y ∈ ys, y ≠ [] ∧ m ∉ y) →
      (u ++ m :: w).intercalate xs = (u ++ m :: w).intercalate ys → xs = ys
  | [], [], _, _, _ => rfl
  | [], y :: ys, _, hy, h => by
    have hpre := prefix_intercalate (u ++ m :: w) y ys
    rw [← h, List.intercalate_nil, List.prefix_nil] at hpre
    exact absurd hpre (hy y List.mem_cons_self).1
  | x :: xs, [], hx, _, h => by
    have hpre := prefix_intercalate (u ++ m :: w) x xs
    rw [h, List.intercalate_nil, List.prefix_nil] at hpre
    exact absurd hpre (hx x List.mem_cons_self).1
  | [x], [y], _, _, h => by simpa using h
  | [x], y :: y' :: ys, hx, _, h => by
    -- only the longer join holds the marked character
    have hm : m ∈ x := by
      rw [List.intercalate_singleton] at h
      simp [h]
    exact absurd hm (hx x List.mem_cons_self).2
  | x :: x' :: xs, [y], _, hy, h => by
    have hm : m ∈ y := by
      rw [List.intercalate_singleton] at h
      simp [← h]
    exact absurd hm (hy y List.mem_cons_self).2
  | x :: x' :: xs, y :: y' :: ys, hx, hy, h => by
    simp only [List.intercalate_cons_cons, List.append_assoc, List.cons_append] at h
    rw [← List.append_assoc, ← List.append_assoc y] at h
    obtain ⟨hhead, htail⟩ := append_cons_cancel
      (by simp [hu, (hx x List.mem_cons_self).2]) (by simp [hu, (hy y List.mem_cons_self).2]) h
    have hrest := intercalate_inj hu hw (fun z hz => hx z (List.mem_cons_of_mem _ hz))
      (fun z hz => hy z (List.mem_cons_of_mem _ hz)) (List.append_cancel_left htail)
    rw [List.append_cancel_right hhead, hrest]

/-- Lists of elements on which a function is injective are read back from their images. -/
theorem List.eq_of_map_eq_of_injOn {α β : Type} {f : α → β} {p : α → Prop}
    (hinj : ∀ a b, p a → p b → f a = f b → a = b) :
    ∀ {xs ys : List α}, (∀ a ∈ xs, p a) → (∀ b ∈ ys, p b) → xs.map f = ys.map f → xs = ys
  | [], [], _, _, _ => rfl
  | [], _ :: _, _, _, h => by simp at h
  | _ :: _, [], _, _, h => by simp at h
  | a :: xs, b :: ys, hx, hy, h => by
    simp only [List.map_cons, List.cons.injEq] at h
    rw [hinj a b (hx a List.mem_cons_self) (hy b List.mem_cons_self) h.1,
      List.eq_of_map_eq_of_injOn hinj (fun a ha => hx a (List.mem_cons_of_mem _ ha))
        (fun b hb => hy b (List.mem_cons_of_mem _ hb)) h.2]

/-! ### Displays of coordinates and dependencies -/

namespace Coordinate

/-- The fields a coordinate's display shows, in order: the classifier only when there is one. -/
def shownFields (c : Coordinate) : List String :=
  [c.group, c.artifact, c.extension] ++ (if c.classifier.isEmpty then [] else [c.classifier]) ++
    [c.version]

theorem display_toList (c : Coordinate) :
    c.display.toList = [':'].intercalate (c.shownFields.map String.toList) := by
  unfold display shownFields
  cases c.classifier.isEmpty <;> simp

variable {c c' : Coordinate}

theorem ClearFields.forall_shown (hc : c.ClearFields) : ∀ x ∈ c.shownFields, ClearField x := by
  intro x hx
  simp only [shownFields, List.mem_append, List.mem_cons, List.not_mem_nil, or_false] at hx
  rcases hx with ((rfl | rfl | rfl) | hx) | rfl
  · exact hc.group
  · exact hc.artifact
  · exact hc.extension
  · split at hx
    · simp at hx
    · rw [List.mem_singleton.1 hx]
      exact hc.classifier
  · exact hc.version

/-- A separator other than `:` is not in the display of clear coordinates. -/
theorem not_mem_display (hc : c.ClearFields) {m : Char} (hm : m ∈ displaySeparators)
    (hne : m ≠ ':') : m ∉ c.display.toList := by
  rw [display_toList]
  refine not_mem_intercalate hne fun l hl => ?_
  obtain ⟨x, hx, rfl⟩ := List.mem_map.1 hl
  exact (hc.forall_shown x hx).not_mem hm

theorem display_ne_nil (c : Coordinate) : c.display.toList ≠ [] := by
  rw [display_toList]
  unfold shownFields
  cases c.classifier.isEmpty <;> simp

/-- **Clear coordinates are read back from their display**: it splits at `:` into the shown
fields, four of them without a classifier and five with one. -/
theorem eq_of_display_eq (hc : c.ClearFields) (hc' : c'.ClearFields)
    (h : c.display = c'.display) : c = c' := by
  have hsplit := congrArg (List.splitOn ':') (congrArg String.toList h)
  have hcolon : ∀ {c : Coordinate}, c.ClearFields →
      ∀ l ∈ c.shownFields.map String.toList, ':' ∉ l := by
    intro c hc l hl
    obtain ⟨x, hx, rfl⟩ := List.mem_map.1 hl
    exact (hc.forall_shown x hx).not_mem (by decide)
  have hne : ∀ c : Coordinate, c.shownFields.map String.toList ≠ [] := by
    intro c
    simp [shownFields]
  rw [display_toList, display_toList, List.splitOn_intercalate ':' (hcolon hc) (hne c),
    List.splitOn_intercalate ':' (hcolon hc') (hne c')] at hsplit
  have hshown := List.map_injective_iff.2 (fun _ _ => String.toList_inj.1) hsplit
  obtain ⟨g, a, e, cl, v⟩ := c
  obtain ⟨g', a', e', cl', v'⟩ := c'
  simp only [shownFields] at hshown
  -- the number of shown fields tells whether there is a classifier
  by_cases hcl : cl.isEmpty <;> by_cases hcl' : cl'.isEmpty <;>
    simp [hcl, hcl'] at hshown
  · obtain ⟨rfl, rfl, rfl, rfl⟩ := hshown
    rw [String.isEmpty_iff.1 hcl, String.isEmpty_iff.1 hcl']
  · obtain ⟨rfl, rfl, rfl, rfl, rfl⟩ := hshown
    rfl

end Coordinate

namespace Dependency

variable {d d' : Dependency}

theorem display_toList (d : Dependency) :
    d.display.toList = (d.coordinate.display.toList ++ [' ']) ++ '(' ::
      (d.scope.toList ++ (if d.optional then ['?'] else []) ++ [')']) := by
  unfold display
  cases d.optional <;> simp

/-- The display of a clear dependency holds no `|`. -/
theorem bar_not_mem_display (hd : d.ClearFields) : '|' ∉ d.display.toList := by
  have hcoord := Coordinate.not_mem_display hd.coordinate (m := '|') (by decide) (by decide)
  have hscope := hd.scope.not_mem (c := '|') (by decide)
  rw [display_toList]
  cases d.optional <;> simp [hcoord, hscope]

/-- **A clear dependency is read back from its display**: the coordinates end at the first `(`,
and a `?` before the closing `)` marks an optional one. -/
theorem eq_of_display_eq (hd : d.ClearFields) (hd' : d'.ClearFields)
    (h : d.display = d'.display) : d = d' := by
  have h := congrArg String.toList h
  rw [display_toList, display_toList] at h
  have hparen : ∀ {d : Dependency}, d.ClearFields → '(' ∉ d.coordinate.display.toList ++ [' '] := by
    intro d hd
    simp [Coordinate.not_mem_display hd.coordinate (m := '(') (by decide) (by decide)]
  obtain ⟨hcoord, hrest⟩ := append_cons_cancel (hparen hd) (hparen hd') h
  have hcoord := Coordinate.eq_of_display_eq hd.coordinate hd'.coordinate
    (String.toList_inj.1 (List.append_cancel_right hcoord))
  have hscope := List.append_cancel_right hrest
  have hq : ∀ {x : String}, ClearField x → '?' ∉ x.toList := fun hx => hx.not_mem (by decide)
  obtain ⟨c, s, o⟩ := d
  obtain ⟨c', s', o'⟩ := d'
  simp only at hcoord hscope
  subst hcoord
  -- a `?` is the optional mark, as no scope holds one
  cases o <;> cases o' <;> simp only [Bool.false_eq_true, if_false, if_true, List.append_nil]
    at hscope
  · rw [String.toList_inj.1 hscope]
  · have hs : '?' ∈ s.toList := by simp [hscope]
    exact absurd hs (hq hd.scope)
  · have hs' : '?' ∈ s'.toList := by simp [← hscope]
    exact absurd hs' (hq hd'.scope)
  · rw [String.toList_inj.1 (List.append_cancel_right hscope)]

end Dependency

/-! ### Reading the canonical text back -/

namespace Violation

variable {v w : Violation} {check code : String}

/-- The path as the canonical text has it: its coordinates joined by ` -> `, nothing for none. -/
theorem dumpPath_getD (v : Violation) :
    v.dumpPath.getD "" = " -> ".intercalate (v.path.map Coordinate.display) := by
  unfold dumpPath
  cases v.path <;> simp

/-- **A clear path is read back from its text**: the coordinates end at each `>`. -/
theorem path_eq_of_dumpPath_eq (hv : v.ClearFields) (hw : w.ClearFields)
    (h : v.dumpPath.getD "" = w.dumpPath.getD "") : v.path = w.path := by
  rw [dumpPath_getD, dumpPath_getD, ← String.toList_inj, String.toList_intercalate,
    String.toList_intercalate, List.map_map, List.map_map,
    show " -> ".toList = [' ', '-'] ++ '>' :: [' '] from rfl] at h
  have hparts : ∀ {v : Violation}, v.ClearFields →
      ∀ l ∈ v.path.map (String.toList ∘ Coordinate.display), l ≠ [] ∧ '>' ∉ l := by
    intro v hv l hl
    obtain ⟨c, hc, rfl⟩ := List.mem_map.1 hl
    exact ⟨c.display_ne_nil, Coordinate.not_mem_display (hv.path c hc) (by decide) (by decide)⟩
  refine List.eq_of_map_eq_of_injOn (f := String.toList ∘ Coordinate.display)
    (fun a b ha hb hab => Coordinate.eq_of_display_eq ha hb (String.toList_inj.1 hab))
    hv.path hw.path ?_
  exact intercalate_inj (by decide) (by decide) (hparts hv) (hparts hw) h

theorem fingerprintText_toList (check code : String) (v : Violation) :
    (v.fingerprintText check code).toList =
      (check.toList ++ '|' :: code.toList ++ ['|']) ++
        (v.dependency.display.toList ++ '|' :: (v.dumpPath.getD "").toList) := by
  simp [fingerprintText]

/-- **The canonical text of clear violations is read back**: it ends the dependency at the first
`|` after the check and the code, and the path takes the rest. -/
theorem eq_of_fingerprintText_eq (hv : v.ClearFields) (hw : w.ClearFields)
    (h : v.fingerprintText check code = w.fingerprintText check code) :
    v.dependency = w.dependency ∧ v.path = w.path := by
  have h := congrArg String.toList h
  rw [fingerprintText_toList, fingerprintText_toList, List.append_cancel_left_eq] at h
  obtain ⟨hdep, hpath⟩ := append_cons_cancel (Dependency.bar_not_mem_display hv.dependency)
    (Dependency.bar_not_mem_display hw.dependency) h
  exact ⟨Dependency.eq_of_display_eq hv.dependency hw.dependency (String.toList_inj.1 hdep),
    path_eq_of_dumpPath_eq hv hw (String.toList_inj.1 hpath)⟩

/-- The canonical text reads nothing of a violation but its dependency and its path. -/
theorem fingerprintText_congr (hdep : v.dependency = w.dependency) (hpath : v.path = w.path) :
    v.fingerprintText check code = w.fingerprintText check code := by
  unfold fingerprintText dumpPath
  rw [hdep, hpath]

/-- **What a violation's fingerprint tells apart.** The canonical text a fingerprint hashes is
the same for violations with the same dependency and path, whatever their constraint and kind;
and when no field of their dependencies and paths holds one of the separating characters `:`,
`|`, `(`, `?` and `>`, violations with the same text have the same dependency and path. -/
theorem fingerprintText_laws (check code : String) (v w : Violation) :
    (v.dependency = w.dependency → v.path = w.path →
      v.fingerprintText check code = w.fingerprintText check code) ∧
    (v.ClearFields → w.ClearFields →
      v.fingerprintText check code = w.fingerprintText check code →
      v.dependency = w.dependency ∧ v.path = w.path) :=
  ⟨fingerprintText_congr, fun hv hw h => eq_of_fingerprintText_eq hv hw h⟩

/-- Two violations of one dependency on `LATEST` and on `RELEASE` have one canonical text; a
violation of another dependency, every field clear of the separators, has another. -/
theorem fingerprintText_laws_latestRelease :
    let lib : Dependency := ⟨⟨"org.example", "lib", "jar", "", "LATEST"⟩, "compile", false⟩
    let app : Dependency := ⟨⟨"org.example", "app", "jar", "", "1.0"⟩, "compile", false⟩
    let v : Violation := ⟨lib, [app.coordinate], .unrecognized "LATEST", .latest⟩
    let w : Violation := ⟨lib, [app.coordinate], .unrecognized "RELEASE", .release⟩
    let x : Violation := ⟨app, [], .unrecognized "LATEST", .latest⟩
    v.ClearFields ∧ x.ClearFields ∧
    v.fingerprintText dynamicRuleId "dynamic" = w.fingerprintText dynamicRuleId "dynamic" ∧
    v.fingerprintText dynamicRuleId "dynamic" ≠ x.fingerprintText dynamicRuleId "dynamic" := by
  intro lib app v w x
  have hlib : lib.ClearFields := by
    constructor <;> (try constructor) <;> simp [lib, ClearField, displaySeparators]
  have happ : app.ClearFields := by
    constructor <;> (try constructor) <;> simp [app, ClearField, displaySeparators]
  have hv : v.ClearFields :=
    ⟨hlib, fun c hc => by rw [List.mem_singleton.1 hc]; exact happ.coordinate⟩
  have hx : x.ClearFields := ⟨happ, fun c hc => nomatch hc⟩
  have h := fingerprintText_laws dynamicRuleId "dynamic" v
  refine ⟨hv, hx, (h w).1 rfl rfl, fun heq => ?_⟩
  -- one text would give the two dependencies one artifact
  have hdep := congrArg (·.coordinate.artifact) ((h x).2 hv hx heq).1
  exact absurd hdep (by decide)

/-- **A colon in a field collides**: an audit of a tree with two direct dependencies `a:b` : `c`
and `a` : `b:c`, both on `LATEST`, reports two violations with different dependencies and one
canonical text, so one fingerprint. -/
theorem fingerprint_colon_collision :
    Auditor.new {} = .ok ⟨{}, ⟨[]⟩⟩ ∧
    ∃ v w : Violation,
      (Auditor.audit ⟨{}, ⟨[]⟩⟩ (.node ⟨⟨"g", "root", "jar", "", "1"⟩, "", false⟩
        [.node ⟨⟨"a:b", "c", "jar", "", "LATEST"⟩, "compile", false⟩ [],
          .node ⟨⟨"a", "b:c", "jar", "", "LATEST"⟩, "compile", false⟩ []])).2.violations =
        [v, w] ∧
      v.dependency ≠ w.dependency ∧
      v.fingerprintText dynamicRuleId v.kind.code = w.fingerprintText dynamicRuleId w.kind.code ∧
      v.fingerprint dynamicRuleId v.kind.code = w.fingerprint dynamicRuleId w.kind.code := by
  refine ⟨rfl, _, _, rfl, by decide, ?_⟩
  -- the fingerprint hashes the canonical text
  exact (fun h => ⟨h, by rw [fingerprint_eq_digest, fingerprint_eq_digest, h]⟩) (by decide)

end Violation

end PinAudit
