import PinAudit.Proofs.DocumentRoundTrip

/-!
# The contract of tree documents

A tree document is read in three steps: the bracket check, the deserializer, and the building of
the nodes. The first and the last are this library's. The deserializer is the JSON library's,
driving the reader the serde derive gives the entry, and it is taken here as a parameter with
what the library documents of it (`Document.Deserializes`):

* it maps a JSON object onto the entry field by field, so the text of a written tree is read as
  the entry that gives each of the tree's fields (`reads_documentText`);
* it reads an entry from a word at the start of the text whose brackets balance, each level of
  the entry an object or an array in it, and each level with children a second bracket pair
  around them (`reads_balanced`).

Under these the contract holds (`Node.ofDocumentWith_documentText`): a written tree that names
its fields reads back as itself when it has at most `maxLevels` levels, a deeper written tree is
refused by the bracket check with its error, and no text at all gives a tree deeper than
`maxLevels`. The bracket check sees twice the levels of a written tree
(`Document.nesting_documentText`), and bounds the levels of any tree read by the height of the
word its entry was read from. The reader the tool runs deserializes so
(`Document.read_deserializes`).
-/

namespace PinAudit

open Json Document

namespace Document

/-- **What a deserializer of tree documents does**, as the JSON library documents it, driving
the reader the serde derive gives the entry. -/
structure Deserializes (deserialize : String → Except Json.Error Entry) : Prop where
  /-- A JSON object is mapped onto the entry field by field: the text of a written tree is read
  as the entry that gives each of its fields. -/
  reads_documentText : ∀ n : Node, deserialize n.documentText = .ok n.toEntry
  /-- An entry is read from a word at the start of the text whose brackets balance, each level
  of the entry a bracket pair in it and each level with children a second pair around them: the
  word nests at least twice the entry's levels, less one. -/
  reads_balanced : ∀ {text : String} {e : Entry}, deserialize text = .ok e →
    ∃ h w rest, text.toList = w ++ rest ∧ Balanced w h ∧ 2 * e.levels ≤ h + 1

end Document

namespace Node

section Contract

variable {deserialize : String → Except Json.Error Entry}

/-- A written tree within the depth limit that names its fields reads back as itself. -/
theorem ofDocumentWith_documentText_of_levels_le (hd : Deserializes deserialize) {n : Node}
    (hn : n.namesFields true = true) (hl : n.levels ≤ maxLevels) :
    Node.ofDocumentWith deserialize n.documentText = .ok n := by
  -- the text nests twice as deep as the tree has levels, which is within the bracket limit
  have hnest : ¬ nesting n.documentText > maxNesting := by
    rw [nesting_documentText]
    simp only [maxNesting, maxLevels] at hl ⊢
    omega
  obtain ⟨log, hconv⟩ := convert_toEntry n true hn
  unfold Node.ofDocumentWith Node.readDocumentWith
  rw [if_neg (mt (nestingWithin_gt_iff _ _).1 hnest), hd.reads_documentText n]
  simp only [hconv]

/-- A written tree deeper than the limit is refused by the bracket check, before any
deserializer reads it. -/
theorem ofDocumentWith_documentText_of_lt_levels (deserialize : String → Except Json.Error Entry)
    {n : Node} (hl : maxLevels < n.levels) :
    Node.ofDocumentWith deserialize n.documentText =
      .error (.of "dependency tree is nested deeper than 256 levels") := by
  have hnest : nesting n.documentText > maxNesting := by
    rw [nesting_documentText]
    simp only [maxNesting, maxLevels] at hl ⊢
    omega
  unfold Node.ofDocumentWith Node.readDocumentWith
  rw [if_pos ((nestingWithin_gt_iff _ _).2 hnest)]
  rfl

/-- **What a tree read from a text went through**: the text passed the depth check, the
deserializer read an entry from it, and building the nodes of the entry gave the tree. -/
theorem ofDocumentWith_eq_ok {text : String} {n : Node}
    (h : Node.ofDocumentWith deserialize text = .ok n) :
    ¬ nestingWithin text maxNesting > maxNesting ∧
      ∃ e log, deserialize text = .ok e ∧ e.convert true = (log, .ok n) := by
  unfold Node.ofDocumentWith Node.readDocumentWith at h
  split at h
  · cases h
  rename_i hnest
  refine ⟨hnest, ?_⟩
  cases hread : deserialize text with
  | error err =>
    rw [hread] at h
    cases h
  | ok e =>
    rw [hread] at h
    simp only at h
    -- building the nodes is the last step, and only its success gives a tree
    generalize hconv : e.convert true = built at h
    obtain ⟨log, built⟩ := built
    cases built with
    | error m => cases h
    | ok n' =>
      cases h
      exact ⟨e, log, rfl, hconv⟩

/-- **No text gives a tree deeper than `maxLevels`.** The bracket check bounds the nesting of the
text, the entry is read from a word nesting twice its levels, less one, at the start of the
text, and building the nodes keeps the levels. -/
theorem levels_le_of_ofDocumentWith (hd : Deserializes deserialize) {text : String} {n : Node}
    (h : Node.ofDocumentWith deserialize text = .ok n) : n.levels ≤ maxLevels := by
  obtain ⟨hnest, e, log, hread, hconv⟩ := ofDocumentWith_eq_ok h
  rw [nestingWithin_gt_iff] at hnest
  obtain ⟨h₁, w, rest, htext, hw, hle⟩ := hd.reads_balanced hread
  have hnest' := le_nesting hw htext
  rw [levels_convert hconv]
  simp only [maxNesting, gt_iff_lt, Nat.not_lt] at hnest
  simp only [maxLevels]
  omega

/-- **The contract of tree documents**, for every deserializer that does what the JSON library
documents. A written tree that names its fields reads back as itself when it has at most
`maxLevels` levels; a deeper written tree is refused by the depth check, with its error; and
whatever the text, a tree read from it has at most `maxLevels` levels. -/
theorem ofDocumentWith_documentText (hd : Deserializes deserialize) :
    (∀ n : Node, n.namesFields true = true → n.levels ≤ maxLevels →
      Node.ofDocumentWith deserialize n.documentText = .ok n) ∧
    (∀ n : Node, maxLevels < n.levels →
      Node.ofDocumentWith deserialize n.documentText =
        .error (.of "dependency tree is nested deeper than 256 levels")) ∧
    (∀ (text : String) (n : Node), Node.ofDocumentWith deserialize text = .ok n →
      n.levels ≤ maxLevels) :=
  ⟨fun _ hn hl => ofDocumentWith_documentText_of_levels_le hd hn hl,
    fun _ hl => ofDocumentWith_documentText_of_lt_levels deserialize hl,
    fun _ _ h => levels_le_of_ofDocumentWith hd h⟩

end Contract

end Node

/-- **The tool's reader deserializes tree documents as the JSON library does**: it reads a
written tree back as its entry, and every entry it reads from a balanced word at the start of
the text. -/
theorem Document.read_deserializes : Deserializes Document.read :=
  ⟨Node.read_documentText, read_balanced⟩

namespace Node

/-- A chain of `k + 1` levels of one dependency. -/
def chain (d : Dependency) : Nat → Node
  | 0 => node d []
  | k + 1 => node d [chain d k]

theorem levels_chain (d : Dependency) (k : Nat) : (chain d k).levels = k + 1 := by
  induction k with
  | zero => simp [chain]
  | succ k ih => simp [chain, ih]

/-- A dependency that names every field. -/
def namedDependency : Dependency :=
  ⟨⟨"org.example", "lib", "jar", "", "1.0"⟩, "compile", false⟩

/-- The tool reads a chain of two levels back, and refuses one of 257 levels. -/
theorem ofDocumentWith_documentText_chain :
    Node.ofDocument (chain namedDependency 1).documentText = .ok (chain namedDependency 1) ∧
    Node.ofDocument (chain namedDependency 256).documentText =
      .error (.of "dependency tree is nested deeper than 256 levels") ∧
    (chain namedDependency 1).levels ≤ maxLevels :=
  ⟨(ofDocumentWith_documentText read_deserializes).1 _ (by decide) (by decide),
    (ofDocumentWith_documentText read_deserializes).2.1 _ (by rw [levels_chain]; decide),
    (ofDocumentWith_documentText read_deserializes).2.2 _ _
      ((ofDocumentWith_documentText read_deserializes).1 _ (by decide) (by decide))⟩

end Node

end PinAudit
