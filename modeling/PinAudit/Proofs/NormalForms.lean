import PinAudit.Proofs.RangeGrammar
import PinAudit.Proofs.ViolationFingerprint

/-!
# Displays that read back

Coordinates and version constraints are displayed in reports, messages and fingerprints, and
the same readers that took them from a tree read them again from such text. Each display is a
normal form: reading it gives back what was displayed.

Both readers trim their text first. A text with no blank at either end is its own trimmed form
(`Text.trimChars_eq_self`); the trimmed form of any text is such a text, so trimming twice is
trimming once (`Text.trimChars_trimChars`).

- A constraint is read from its trimmed text alone (`Constraint.parse_trim`), and a constraint
  that was read is displayed as that trimmed text (`Constraint.display_of_parse_eq_ok`). So a
  display reads back as the constraint it shows, and the lenient reading, which keeps a text it
  cannot read as it was given, reads its own display back unchanged.
- A coordinate that was read is `Coordinate.Readable`: group, artifact and type are not empty,
  no shown field holds `:`, the group starts and the version ends with no blank. The display of
  such coordinates is trimmed already and cuts at `:` into the shown fields, so it reads back.

Main statements: `Constraint.display_reads_back`, `Coordinate.parse_display_of_parse_eq_ok`.
-/

namespace PinAudit

/-! ### Trimmed texts -/

namespace Text

/-- A text with no blank at either end is its own trimmed form. -/
theorem trimChars_eq_self {cs : List Char} (hhead : ∀ c ∈ cs.head?, isBlank c = false)
    (hlast : ∀ c ∈ cs.getLast?, isBlank c = false) : trimChars cs = cs := by
  have hfront : ∀ ds : List Char, (∀ c ∈ ds.head?, isBlank c = false) → dropBlank ds = ds := by
    intro ds hds
    cases ds with
    | nil => rfl
    | cons d ds => exact Range.dropBlank_cons_of_not_blank (hds d rfl) ds
  have hback : ∀ c ∈ cs.reverse.head?, isBlank c = false := by
    simpa [List.head?_reverse] using hlast
  rw [trimChars, hfront cs hhead, hfront _ hback, List.reverse_reverse]

/-- A trimmed text starts with no blank. -/
theorem head?_trimChars (cs : List Char) : ∀ c ∈ (trimChars cs).head?, isBlank c = false := by
  intro c hc
  rw [trimChars, List.head?_reverse] at hc
  -- dropping the trailing blanks keeps the last character of what is left
  obtain ⟨b, -, hsplit⟩ := Range.eq_append_dropBlank (dropBlank cs).reverse
  have hlast : c ∈ (dropBlank cs).reverse.getLast? := by
    rw [hsplit, List.getLast?_append, Option.mem_def.1 hc]
    rfl
  rw [List.getLast?_reverse] at hlast
  exact Range.head?_dropBlank cs c hlast

/-- Trimming twice is trimming once. -/
theorem trimChars_trimChars (cs : List Char) : trimChars (trimChars cs) = trimChars cs :=
  trimChars_eq_self (head?_trimChars cs) (Range.noTrailingBlank_trimChars cs)

theorem trimChars_trim (t : String) : trimChars (trim t).toList = trimChars t.toList := by
  rw [trim, String.toList_ofList, trimChars_trimChars]

theorem trim_trim (t : String) : trim (trim t) = trim t :=
  congrArg String.ofList (trimChars_trim t)

end Text

/-! ### Version constraints -/

namespace Constraint

/-- A constraint is read from its trimmed text alone. -/
theorem parse_trim (t : String) : parse (Text.trim t) = parse t := by
  unfold parse
  rw [Text.trimChars_trim]

/-- **A constraint that was read is displayed as its trimmed text**: a range keeps the trimmed
text, an alias is that text, and a fixed version is written as it. -/
theorem display_of_parse_eq_ok {t : String} {c : Constraint} (h : parse t = .ok c) :
    c.display = Text.trim t := by
  unfold parse at h
  split at h
  · cases h
  · rename_i x rest htrim
    have hcs : String.ofList (x :: rest) = Text.trim t := by rw [Text.trim, htrim]
    split at h
    · -- a range keeps its trimmed text, which trimming does not change
      cases hr : Range.parse (String.ofList (x :: rest)) with
      | error e => rw [hr] at h; cases h
      | ok r =>
        rw [hr] at h
        cases h
        rw [display, Range.text_of_parse_eq_ok hr, hcs, Text.trim_trim]
    · dsimp only at h
      split at h
      · cases h
        rw [display, Alias.text, ← hcs]
        exact (beq_iff_eq.1 ‹_›).symm
      · split at h
        · cases h
          rw [display, Alias.text, ← hcs]
          exact (beq_iff_eq.1 ‹_›).symm
        · cases h
          exact hcs

/-- A display of a constraint that was read reads back as that constraint. -/
theorem parse_display_of_parse {t : String} {c : Constraint} (h : parse t = .ok c) :
    parse c.display = .ok c := by
  rw [display_of_parse_eq_ok h, parse_trim, h]

/-- The lenient reading reads its own display back unchanged. -/
theorem ofResolved_display (t : String) : ofResolved (ofResolved t).display = ofResolved t := by
  cases h : parse t with
  | ok c =>
    have hc : ofResolved t = c := by rw [ofResolved, h]
    rw [hc, ofResolved, parse_display_of_parse h]
  | error e =>
    -- what cannot be read is kept, and displayed, as it was given
    have hu : ofResolved t = .unrecognized t := by rw [ofResolved, h]
    rw [hu, display, ofResolved, h]

/-- **The display of a constraint is a normal form.** The lenient reading of any text, displayed
and read leniently again, is the same constraint; and a constraint the strict reading takes from
a text is read strictly from its display. -/
theorem display_reads_back (t : String) :
    ofResolved (ofResolved t).display = ofResolved t ∧
      ∀ c, parse t = .ok c → parse c.display = .ok c :=
  ⟨ofResolved_display t, fun _ h => parse_display_of_parse h⟩

/-- A single-point range written between blanks. -/
theorem display_reads_back_point :
    parse " [1.0] " = .ok (.range ⟨"[1.0]", [⟨some ⟨⟨"1.0"⟩, true⟩, some ⟨⟨"1.0"⟩, true⟩⟩]⟩) ∧
      parse (Constraint.range ⟨"[1.0]", [⟨some ⟨⟨"1.0"⟩, true⟩, some ⟨⟨"1.0"⟩, true⟩⟩]⟩).display =
        .ok (.range ⟨"[1.0]", [⟨some ⟨⟨"1.0"⟩, true⟩, some ⟨⟨"1.0"⟩, true⟩⟩]⟩) :=
  ⟨rfl, (display_reads_back " [1.0] ").2 _ rfl⟩

end Constraint

/-! ### Coordinates -/

namespace Coordinate

/-- A join of parts at `:` starts as its first part does, when that part is not empty. -/
theorem head?_join {g : List Char} (rest : List (List Char)) (hg : g ≠ []) :
    ([':'].intercalate (g :: rest)).head? = g.head? := by
  obtain ⟨x, xs, rfl⟩ := List.exists_cons_of_ne_nil hg
  simp

/-- A join of two parts or more at `:` ends with `:` and the last part. -/
theorem join_eq_append_last (p : List Char) (mid : List (List Char)) (v : List Char) :
    ∃ init, [':'].intercalate (p :: mid ++ [v]) = init ++ ':' :: v := by
  induction mid generalizing p with
  | nil => exact ⟨p, by simp⟩
  | cons q mid ih =>
    obtain ⟨init, h⟩ := ih q
    refine ⟨p ++ ':' :: init, ?_⟩
    rw [List.cons_append, List.intercalate_cons_of_ne_nil (by simp), h]
    simp

/-- A text ending with `:` and a part with no trailing blank has no trailing blank. -/
theorem noTrailingBlank_append_colon {init v : List Char} (hv : Range.NoTrailingBlank v) :
    Range.NoTrailingBlank (init ++ ':' :: v) := by
  intro x hx
  rw [List.getLast?_append, List.getLast?_cons] at hx
  cases hvl : v.getLast? with
  | none =>
    simp only [hvl, Option.getD_none, Option.some_or, Option.mem_def, Option.some.injEq] at hx
    subst hx
    decide
  | some y =>
    simp only [hvl, Option.getD_some, Option.some_or, Option.mem_def, Option.some.injEq] at hx
    subst hx
    exact hv y hvl

/-- **Coordinates whose display reads back**: group, artifact and type are not empty, no field
the display shows holds `:`, the group starts with no blank and the version ends with none. -/
structure Readable (c : Coordinate) : Prop where
  group_ne : c.group ≠ ""
  artifact_ne : c.artifact ≠ ""
  extension_ne : c.extension ≠ ""
  noColon : ∀ x ∈ c.shownFields, ':' ∉ x.toList
  group_head : ∀ x ∈ c.group.toList.head?, Text.isBlank x = false
  version_last : Range.NoTrailingBlank c.version.toList

theorem shownFields_eq (c : Coordinate) :
    c.shownFields.map String.toList = c.group.toList ::
      ([c.artifact, c.extension] ++ (if c.classifier.isEmpty then [] else [c.classifier])).map
        String.toList ++ [c.version.toList] := by
  simp [shownFields]

/-- The display of readable coordinates is trimmed already: it starts with the group and ends
with `:` and the version. -/
theorem Readable.trimChars_display {c : Coordinate} (hc : c.Readable) :
    Text.trimChars c.display.toList = c.display.toList := by
  have hg : c.group.toList ≠ [] := by simpa using hc.group_ne
  obtain ⟨init, hinit⟩ := join_eq_append_last c.group.toList
    (([c.artifact, c.extension] ++ (if c.classifier.isEmpty then [] else [c.classifier])).map
      String.toList) c.version.toList
  refine Text.trimChars_eq_self ?_ ?_
  · rw [display_toList, shownFields_eq, List.cons_append, head?_join _ hg]
    exact hc.group_head
  · rw [display_toList, shownFields_eq, hinit]
    exact noTrailingBlank_append_colon hc.version_last

/-- The display of readable coordinates cuts at `:` into the shown fields. -/
theorem Readable.splitOn_display {c : Coordinate} (hc : c.Readable) :
    c.display.toList.splitOn ':' = c.shownFields.map String.toList := by
  rw [display_toList]
  refine List.splitOn_intercalate ':' (fun l hl => ?_) (by simp [shownFields])
  obtain ⟨x, hx, rfl⟩ := List.mem_map.1 hl
  exact hc.noColon x hx

/-- **Readable coordinates read back from their display**, with four fields when the classifier
is empty and five when it is not. -/
theorem parse_display {c : Coordinate} (hc : c.Readable) : parse c.display = .ok c := by
  unfold parse
  rw [hc.trimChars_display, hc.splitOn_display, List.map_map]
  have hshown : (String.ofList ∘ String.toList) = id := funext fun _ => String.ofList_toList
  rw [hshown, List.map_id]
  obtain ⟨g, a, e, cl, v⟩ := c
  have hg : g.isEmpty = false := by simpa using hc.group_ne
  have ha : a.isEmpty = false := by simpa using hc.artifact_ne
  have he : e.isEmpty = false := by simpa using hc.extension_ne
  by_cases hcl : cl.isEmpty
  · -- no classifier is shown, so four fields are read and the classifier is empty again
    simp [shownFields, hg, ha, he, String.isEmpty_iff.1 hcl]
  · simp [shownFields, hcl, hg, ha, he]

/-- The first part of a text cut at `:` into two parts or more starts as the text does, and
its last part ends as the text does. -/
theorem ends_of_join (g : List Char) (mid : List (List Char)) (v : List Char) (hg : g ≠ [])
    (hhead : ∀ x ∈ ([':'].intercalate (g :: mid ++ [v])).head?, Text.isBlank x = false)
    (hlast : Range.NoTrailingBlank ([':'].intercalate (g :: mid ++ [v]))) :
    (∀ x ∈ g.head?, Text.isBlank x = false) ∧ Range.NoTrailingBlank v := by
  obtain ⟨init, hinit⟩ := join_eq_append_last g mid v
  refine ⟨?_, ?_⟩
  · rw [List.cons_append, head?_join _ hg] at hhead
    exact hhead
  · rw [hinit, List.append_cons] at hlast
    exact hlast.of_append

/-- A check that group and artifact are not empty passed. -/
theorem ok_of_checked {g a : String} {m : String} {x c : Coordinate}
    (h : (if g.isEmpty || a.isEmpty then .error m else .ok x) = Except.ok c) :
    g ≠ "" ∧ a ≠ "" ∧ x = c := by
  split at h
  · cases h
  · rename_i hga
    cases h
    simpa using hga

/-- Coordinates built as reading builds them, from fields with no `:`, a group that is not
empty and starts with no blank, an artifact that is not empty and a version that ends with no
blank, are readable. -/
theorem readable_mk {g a e cl v : String} (hg : g ≠ "") (ha : a ≠ "")
    (hcolon : ∀ x ∈ [g, a, e, cl, v], ':' ∉ x.toList)
    (hhead : ∀ x ∈ g.toList.head?, Text.isBlank x = false)
    (hlast : Range.NoTrailingBlank v.toList) :
    Readable ⟨g, a, if e.isEmpty then defaultExtension else e, cl, v⟩ where
  group_ne := hg
  artifact_ne := ha
  extension_ne := by
    split
    · simp [defaultExtension]
    · rename_i he
      simpa using he
  noColon := by
    intro x hx
    simp only [shownFields, List.mem_append, List.mem_cons, List.not_mem_nil, or_false] at hx
    rcases hx with ((rfl | rfl | rfl) | hx) | rfl
    · exact hcolon _ (by simp)
    · exact hcolon _ (by simp)
    · -- the type is the one given, or the default one
      split
      · simp [defaultExtension]
      · exact hcolon _ (by simp)
    · split at hx
      · simp at hx
      · rw [List.mem_singleton.1 hx]
        exact hcolon _ (by simp)
    · exact hcolon _ (by simp)
  group_head := hhead
  version_last := hlast

/-- **Coordinates that were read are readable.** The trimmed text is its parts joined by `:`,
none of which holds `:`; it starts with the group and ends with the version, so the group
starts and the version ends with no blank; and reading checked the group and the artifact. -/
theorem readable_of_parse_eq_ok {t : String} {c : Coordinate} (h : parse t = .ok c) :
    c.Readable := by
  have hjoin : [':'].intercalate ((Text.trimChars t.toList).splitOn ':') =
      Text.trimChars t.toList := List.intercalate_splitOn ':'
  have hcolon : ∀ p ∈ (Text.trimChars t.toList).splitOn ':', ':' ∉ p :=
    fun p hp => Range.not_mem_of_mem_splitOn hp
  have hhead := Text.head?_trimChars t.toList
  have hlast := Range.noTrailingBlank_trimChars t.toList
  rw [← hjoin] at hhead hlast
  unfold parse at h
  dsimp only at h
  generalize (Text.trimChars t.toList).splitOn ':' = ps at h hcolon hhead hlast
  -- three, four or five parts are read; any other number is refused
  rcases ps with _ | ⟨p₁, _ | ⟨p₂, _ | ⟨p₃, _ | ⟨p₄, _ | ⟨p₅, _ | ⟨p₆, ps⟩⟩⟩⟩⟩⟩
  · simp at h
  · simp at h
  · simp at h
  · -- group, artifact and version, with the default type
    simp only [List.map_cons, List.map_nil] at h
    obtain ⟨hg, ha, rfl⟩ := ok_of_checked h
    obtain ⟨hs, hv⟩ := ends_of_join p₁ [p₂] p₃ (by simpa using hg) hhead hlast
    refine readable_mk hg ha ?_ (by simpa using hs) (by simpa using hv)
    simpa [defaultExtension] using hcolon
  · -- group, artifact, type and version
    simp only [List.map_cons, List.map_nil] at h
    obtain ⟨hg, ha, rfl⟩ := ok_of_checked h
    obtain ⟨hs, hv⟩ := ends_of_join p₁ [p₂, p₃] p₄ (by simpa using hg) hhead hlast
    refine readable_mk hg ha ?_ (by simpa using hs) (by simpa using hv)
    simpa using hcolon
  · -- group, artifact, type, classifier and version
    simp only [List.map_cons, List.map_nil] at h
    obtain ⟨hg, ha, rfl⟩ := ok_of_checked h
    obtain ⟨hs, hv⟩ := ends_of_join p₁ [p₂, p₃, p₄] p₅ (by simpa using hg) hhead hlast
    exact readable_mk hg ha (by simpa using hcolon) (by simpa using hs) (by simpa using hv)
  · simp at h

/-- **Display followed by reading is the identity on coordinates that were read**: from the
three-part form with its default type, an empty type, an empty classifier in the five-part
form, fields that are blank but not empty, and an empty version alike. -/
theorem parse_display_of_parse_eq_ok {t : String} {c : Coordinate} (h : parse t = .ok c) :
    parse c.display = .ok c :=
  parse_display (readable_of_parse_eq_ok h)

/-- Five parts with an empty type and a blank classifier, around blanks. -/
theorem parse_display_of_parse_eq_ok_blankClassifier :
    parse " g:a::  :1.0 " = .ok ⟨"g", "a", "jar", "  ", "1.0"⟩ ∧
      parse (Coordinate.display ⟨"g", "a", "jar", "  ", "1.0"⟩) = .ok ⟨"g", "a", "jar", "  ", "1.0"⟩ :=
  ⟨rfl, parse_display_of_parse_eq_ok (t := " g:a::  :1.0 ") rfl⟩

end Coordinate

end PinAudit
