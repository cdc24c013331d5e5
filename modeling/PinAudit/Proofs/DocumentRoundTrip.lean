import PinAudit.Proofs.ReadBack

/-!
# The tool's reader reads a written tree back

A tree written as a document (`Node.documentText`) is read by the tool's reader, `Document.read`,
as the entry that gives every field (`Node.toEntry`): the readers of the fields go over the text
in the order it was written (`Node.entryFields_reads`), and an entry needs ten steps of fuel for
each level, which the reader's fuel, twice the text's length and more, always covers
(`Node.read_documentText`). The entry builds the tree back when the tree names its group,
artifact and type everywhere and its scope below the root (`Node.convert_toEntry`): otherwise
the defaults would stand in.
-/

namespace PinAudit

open Json Document

namespace Document

theorem once_reads {α : Type} {read : Reader α} {w : List Char} {x : α} (name : String)
    (h : Reads read w x) : Reads (once name false read) (':' :: w) (.ok x) := by
  intro c rest hc
  rw [once, if_neg Bool.false_ne_true]
  exact (Reads.bind colon_reads
    (Reads.bind h (Reads.pure (Except.ok x)) (List.append_nil w).symm) rfl) c rest hc

end Document

namespace Node

mutual

/-- **The entry a tree's document is read as**: every field given, the optional ones too. -/
def toEntry : Node → Entry
  | node d cs =>
    .mk d.coordinate.group d.coordinate.artifact d.coordinate.version (some d.coordinate.extension)
      (some d.coordinate.classifier) (some d.scope) d.optional (toEntries cs)

/-- The entries of trees, in order. -/
def toEntries : List Node → List Entry
  | [] => []
  | c :: cs => toEntry c :: toEntries cs

end

/-- The fields of a node's document, in the order they are read: each key (after a comma but
the first), a colon and the value. -/
def fieldsChars (d : Dependency) (cs : List Node) : List Char :=
  (quote "groupId").toList ++ ((':' :: (quote d.coordinate.group).toList) ++
  ((',' :: (quote "artifactId").toList) ++ ((':' :: (quote d.coordinate.artifact).toList) ++
  ((',' :: (quote "version").toList) ++ ((':' :: (quote d.coordinate.version).toList) ++
  ((',' :: (quote "type").toList) ++ ((':' :: (quote d.coordinate.extension).toList) ++
  ((',' :: (quote "classifier").toList) ++ ((':' :: (quote d.coordinate.classifier).toList) ++
  ((',' :: (quote "scope").toList) ++ ((':' :: (quote d.scope).toList) ++
  ((',' :: (quote "optional").toList) ++
  ((':' :: (if d.optional then "true" else "false").toList) ++
  ((',' :: (quote "children").toList) ++ (':' :: '[' :: itemsChars cs ++ [']'])))))))))))))))

theorem documentText_fields (d : Dependency) (cs : List Node) :
    (node d cs).documentText.toList = '{' :: (fieldsChars d cs ++ ['}']) := by
  rw [documentText_toList]
  simp [fieldsChars, fieldChars]

/-- The fields of an object entry, read in the order a tree's document writes them. -/
theorem entryFields_reads (d : Dependency) (cs : List Node) (fuel : Nat)
    (hcs : Reads (Document.children (fuel + 1)) ('[' :: itemsChars cs ++ [']']) (toEntries cs)) :
    ReadsBefore (entryFields (fuel + 9) {} true) (fieldsChars d cs) '}'
      (.ok (node d cs).toEntry) := by
  -- one key and its value at a time, each a step of fuel, as the document writes them
  rw [entryFields]
  refine Reads.bind_before (nextKey_first "groupId") ?_ rfl
  simp only
  refine Reads.bind_before (once_reads "groupId" (readString_reads d.coordinate.group)) ?_ rfl
  simp only
  rw [entryFields]
  refine Reads.bind_before (nextKey_next "artifactId") ?_ rfl
  simp only
  refine Reads.bind_before (once_reads "artifactId" (readString_reads d.coordinate.artifact)) ?_ rfl
  simp only
  rw [entryFields]
  refine Reads.bind_before (nextKey_next "version") ?_ rfl
  simp only
  refine Reads.bind_before (once_reads "version" (readString_reads d.coordinate.version)) ?_ rfl
  simp only
  rw [entryFields]
  refine Reads.bind_before (nextKey_next "type") ?_ rfl
  simp only
  refine Reads.bind_before (once_reads "type" (readOptString_reads d.coordinate.extension)) ?_ rfl
  simp only
  rw [entryFields]
  refine Reads.bind_before (nextKey_next "classifier") ?_ rfl
  simp only
  refine Reads.bind_before (once_reads "classifier" (readOptString_reads d.coordinate.classifier))
    ?_ rfl
  simp only
  rw [entryFields]
  refine Reads.bind_before (nextKey_next "scope") ?_ rfl
  simp only
  refine Reads.bind_before (once_reads "scope" (readOptString_reads d.scope)) ?_ rfl
  simp only
  rw [entryFields]
  refine Reads.bind_before (nextKey_next "optional") ?_ rfl
  simp only
  refine Reads.bind_before (once_reads "optional" (readBool_reads d.optional)) ?_ rfl
  simp only
  rw [entryFields]
  refine Reads.bind_before (nextKey_next "children") ?_ rfl
  simp only
  refine Reads.bind_before (once_reads "children" hcs) ?_ (List.append_nil _).symm
  simp only
  rw [entryFields]
  exact nextKey_end.bind_stay (ReadsBefore.pure _ _)

theorem toEntries_eq_map (cs : List Node) : toEntries cs = cs.map toEntry := by
  induction cs with
  | nil => rw [toEntries, List.map_nil]
  | cons c cs ih => rw [toEntries, ih, List.map_cons]

theorem documentText_head (n : Node) :
    n.documentText.toList = '{' :: n.documentText.toList.tail := by
  cases n with
  | node d cs => rw [documentText_fields]; rfl

/-- The children of an entry: the array of the children's documents. -/
theorem children_reads (cs : List Node) (fuel : Nat)
    (hitem : ∀ c ∈ cs, Reads (entry fuel) c.documentText.toList c.toEntry) :
    Reads (Document.children (fuel + 1)) ('[' :: itemsChars cs ++ [']']) (toEntries cs) := by
  intro c rest hc
  rw [Document.children, skipWs_bind, skipWsFrom_of_head hc rfl, hc]
  simp only [List.cons_append, List.head?_cons, bump_bind, get_bind]
  have hb : c.bump.rest = itemsChars cs ++ ']' :: rest := by rw [Cursor.bump_rest, hc]; simp
  -- the items up to the closing bracket, then the bracket
  have hitems : ReadsBefore (readItems (entry fuel) (c.bump.rest.length + 1) true [])
      (itemsChars cs) ']' (toEntries cs) := by
    -- the items' fuel is the length of the rest, more than one step for each item
    cases cs with
    | nil =>
      rw [itemsChars_nil, toEntries]
      exact readItems_none _ (by omega)
    | cons c₁ cs₁ =>
      have hitem' : ∀ n ∈ c₁ :: cs₁,
          Reads (entry fuel) ('{' :: n.documentText.toList.tail) n.toEntry := by
        intro n hn
        rw [← documentText_head]
        exact hitem n hn
      have hlen := length_le_flatMap_comma (fun n => '{' :: n.documentText.toList.tail) cs₁
      have hw : itemsChars (c₁ :: cs₁) = '{' :: c₁.documentText.toList.tail ++
          cs₁.flatMap fun n => ',' :: '{' :: n.documentText.toList.tail := by
        rw [itemsChars_cons]
        simp only [← documentText_head]
      rw [hw, toEntries_eq_map]
      refine readItems_first (fun n => n.documentText.toList.tail) c₁ cs₁ hitem' _ ?_
      rw [hb, hw]
      simp only [List.length_append, List.length_cons]
      omega
  exact (hitems.bind (Reads.bind (f := fun _ => pure (toEntries cs)) closeArray_reads
    (Reads.pure _) rfl) rfl) c.bump rest (by rw [hb]; simp)

mutual

/-- **A tree's document reads back as its entry**, with ten steps of fuel for each level: one
for the entry, one for each of its eight fields and one for its closing brace. -/
theorem entry_reads : ∀ (n : Node) (fuel : Nat), 10 * n.levels ≤ fuel →
    Reads (entry fuel) n.documentText.toList n.toEntry
  | node d cs, fuel, hfuel => by
    -- ten steps for this level, the rest for the children's levels
    obtain ⟨G, rfl⟩ : ∃ G, fuel = G + 10 :=
      ⟨fuel - 10, by rw [levels_node] at hfuel; omega⟩
    have hcs := children_reads cs G (entries_reads cs G (by rw [levels_node] at hfuel; omega))
    intro c rest hc
    rw [documentText_fields] at hc
    rw [show G + 10 = (G + 9) + 1 from rfl, entry, readStruct, skipWs_bind,
      skipWsFrom_of_head hc rfl, hc]
    simp only [List.cons_append, List.head?_cons, bump_bind]
    exact ((entryFields_reads d cs G hcs).bind
      (Reads.bind (f := fun _ => pure (node d cs).toEntry) closeObject_reads (Reads.pure _) rfl)
      rfl) c.bump rest (by rw [Cursor.bump_rest, hc]; simp)

/-- The documents of trees each read back as their entries. -/
theorem entries_reads : ∀ (cs : List Node) (fuel : Nat), 10 * levelsOf cs ≤ fuel →
    ∀ c ∈ cs, Reads (entry fuel) c.documentText.toList c.toEntry
  | [], _, _ => by simp
  | c :: cs, fuel, hfuel => by
    rw [levelsOf_cons] at hfuel
    intro c' hc'
    rcases List.mem_cons.1 hc' with h | hc'
    · rw [h]
      exact entry_reads c fuel (by omega)
    · exact entries_reads cs fuel (by omega) c' hc'

end

/-- **A tree's document is read as its entry.** -/
theorem read_documentText (n : Node) : Document.read n.documentText = .ok n.toEntry := by
  -- the read's fuel grows with the text, and the text has at least five characters per level
  have hlen := levels_le_length n
  obtain ⟨c', he, hc'⟩ := entry_reads n (2 * (Cursor.start n.documentText).rest.length + 8)
    (by simp only [Cursor.start]; omega) (Cursor.start n.documentText) [] (by simp [Cursor.start])
  unfold Document.read
  dsimp only [StateT.run]
  -- nothing follows the entry, so the check for trailing text passes
  erw [Reader.bind_of_ok he, skipWs_bind, hc']
  rfl

mutual

/-- **The fields a document must name**: every node names its group, artifact and type, and
every node below the top one (the root, when `root`) its scope. Without them, reading the
document back fills in defaults or refuses the node. -/
def namesFields (root : Bool) : Node → Bool
  | node d cs =>
    !Text.allBlank d.coordinate.group && !Text.allBlank d.coordinate.artifact &&
      !Text.allBlank d.coordinate.extension && (root || !Text.allBlank d.scope) &&
      namesFieldsOf cs

/-- Every tree of a list names its fields, none of them at the root. -/
def namesFieldsOf : List Node → Bool
  | [] => true
  | c :: cs => namesFields false c && namesFieldsOf cs

end

theorem present_of_not_allBlank {s : String} (h : Text.allBlank s = false) :
    present (some s) = some s := by
  simp [present, h]

mutual

/-- **A tree's entry builds the tree back**, when the tree names its fields. -/
theorem convert_toEntry : ∀ (n : Node) (root : Bool), n.namesFields root = true →
    ∃ log, n.toEntry.convert root = (log, .ok n)
  | node d cs, root, h => by
    simp only [namesFields, Bool.and_eq_true, Bool.not_eq_true', Bool.or_eq_true] at h
    obtain ⟨⟨⟨⟨hg, ha⟩, ht⟩, hs⟩, hcs⟩ := h
    obtain ⟨log, hlog⟩ := convertAll_toEntries cs hcs
    refine ⟨log ++ constraintNote d.coordinate.version, ?_⟩
    -- the root keeps its scope as written, any other node keeps its scope as it is not blank
    have hscope :
        (if root then d.scope else (present (some d.scope)).getD "compile") = d.scope := by
      cases root with
      | true => rfl
      | false =>
        simp only [Bool.false_eq_true, false_or] at hs
        simp [present_of_not_allBlank hs]
    rw [toEntry, Entry.convert, hg, ha]
    simp only [Bool.or_self, Bool.false_eq_true, if_false, hlog, present_of_not_allBlank ht,
      Option.getD_some]
    rw [hscope]

theorem convertAll_toEntries : ∀ (cs : List Node), namesFieldsOf cs = true →
    ∃ log, Entry.convertAll (toEntries cs) = (log, .ok cs)
  | [], _ => ⟨[], by rw [toEntries, Entry.convertAll]⟩
  | c :: cs, h => by
    simp only [namesFieldsOf, Bool.and_eq_true] at h
    obtain ⟨log₁, h₁⟩ := convert_toEntry c false h.1
    obtain ⟨log₂, h₂⟩ := convertAll_toEntries cs h.2
    refine ⟨log₁ ++ log₂, ?_⟩
    rw [toEntries, Entry.convertAll, h₁]
    simp only [h₂]
    rfl

end

end Node

end PinAudit
