import PinAudit.Proofs.DocumentDepth
import PinAudit.Json.Write

/-!
# Trees written as documents

A tree is written as a tree document with the library's JSON writer: each node an object of
its eight fields in the document's order (`groupId`, `artifactId`, `version`, `type`,
`classifier`, `scope`, `optional`, `children`), every field written and the strings escaped,
a leaf's children as an empty array (`Node.documentText`).

Its text is balanced twice the tree's levels high (`Document.Balanced.documentText`): each
level is an object and the array of its children, and strings stay out of the count whatever
they hold, since every escaped character stays inside its string
(`Document.StaysInString.escapeChar`). So the bracket check of a written tree sees exactly
twice its levels (`Document.nesting_documentText`). The text also has at least five characters
for each level (`Node.levels_le_length`), which is what reading it back needs of its length.
-/

namespace PinAudit

open Json Document

namespace Json

/-- The characters of an object field: the quoted key, a colon and the value's characters. -/
def fieldChars (k : String) (v : List Char) : List Char := (quote k).toList ++ ':' :: v

theorem quote_toList (s : String) :
    (quote s).toList = '"' :: (s.toList.flatMap escapeChar ++ ['"']) := by
  simp [quote]

/-- A hexadecimal digit is neither a quote nor a backslash. -/
theorem hexDigit_ne : ∀ k < 16, hexDigit k ≠ '"' ∧ hexDigit k ≠ '\\' := by decide

end Json

namespace Node

mutual

/-- **A tree as a document**: each node an object of its eight fields in the document's order,
every one written, the children last (a leaf's as an empty array). -/
def toDocument : Node → Value
  | node d cs =>
    .obj [("groupId", .str d.coordinate.group), ("artifactId", .str d.coordinate.artifact),
      ("version", .str d.coordinate.version), ("type", .str d.coordinate.extension),
      ("classifier", .str d.coordinate.classifier), ("scope", .str d.scope),
      ("optional", .bool d.optional), ("children", .arr (toDocuments cs))]

/-- Trees as documents, in order. -/
def toDocuments : List Node → List Value
  | [] => []
  | c :: cs => toDocument c :: toDocuments cs

end

/-- **The text of a tree document**, in compact JSON. -/
def documentText (n : Node) : String := n.toDocument.compact

/-- The characters of the children of a node in its document: their texts, comma-separated. -/
def itemsChars (cs : List Node) : List Char := (Value.compactItems (toDocuments cs)).toList

theorem documentText_toList (d : Dependency) (cs : List Node) :
    (node d cs).documentText.toList =
      '{' :: (fieldChars "groupId" (quote d.coordinate.group).toList ++ ',' ::
        fieldChars "artifactId" (quote d.coordinate.artifact).toList ++ ',' ::
        fieldChars "version" (quote d.coordinate.version).toList ++ ',' ::
        fieldChars "type" (quote d.coordinate.extension).toList ++ ',' ::
        fieldChars "classifier" (quote d.coordinate.classifier).toList ++ ',' ::
        fieldChars "scope" (quote d.scope).toList ++ ',' ::
        fieldChars "optional" (if d.optional then "true" else "false").toList ++ ',' ::
        fieldChars "children" ('[' :: itemsChars cs ++ [']'])) ++ ['}'] := by
  simp [documentText, toDocument, Value.compact, Value.compactFields, fieldChars, itemsChars]

theorem itemsChars_nil : itemsChars [] = [] := by
  simp [itemsChars, toDocuments, Value.compactItems]

theorem itemsChars_cons (c : Node) (cs : List Node) :
    itemsChars (c :: cs) =
      c.documentText.toList ++ cs.flatMap fun c' => ',' :: c'.documentText.toList := by
  induction cs generalizing c with
  | nil => simp [itemsChars, toDocuments, Value.compactItems, documentText]
  | cons c' cs ih =>
    have := ih c'
    simp only [itemsChars] at this ⊢
    simp only [toDocuments, Value.compactItems, documentText] at this ⊢
    simp [this]

end Node

namespace Document

/-- An escaped character stays inside the string. -/
theorem StaysInString.escapeChar (c : Char) : StaysInString (escapeChar c) := by
  unfold Json.escapeChar
  repeat' split
  any_goals exact StaysInString.escape _
  · -- a control character, written as four hex digits
    have h₁ := hexDigit_ne (c.toNat / 16) (by omega)
    have h₂ := hexDigit_ne (c.toNat % 16) (by omega)
    refine (StaysInString.escape 'u').append (StaysInString.plains ?_)
    simp [h₁, h₂]
  · rename_i hq hb _ _ _ _ _ _
    exact StaysInString.plain (by simpa using hq) (by simpa using hb)

theorem StaysInString.escaped (cs : List Char) : StaysInString (cs.flatMap Json.escapeChar) := by
  induction cs with
  | nil => exact StaysInString.nil
  | cons c cs ih => exact (StaysInString.escapeChar c).append ih

/-- **A quoted string is balanced** with height zero, whatever it holds. -/
theorem Balanced.quote (s : String) : Balanced (Json.quote s).toList 0 := by
  rw [quote_toList]
  exact Balanced.string (ClosesString.of_stays (StaysInString.escaped s.toList) ClosesString.quote)

theorem Balanced.zero_append {w w' : List Char} {h : Nat} (hw : Balanced w 0)
    (hw' : Balanced w' h) : Balanced (w ++ w') h := by
  simpa using hw.append hw'

theorem Balanced.comma {w : List Char} {h : Nat} (hw : Balanced w h) : Balanced (',' :: w) h :=
  Balanced.zero_append (w := [',']) (Balanced.plain (by decide)) hw

/-- A field is as high as its value. -/
theorem Balanced.field (k : String) {v : List Char} {h : Nat} (hv : Balanced v h) :
    Balanced (fieldChars k v) h :=
  (Balanced.quote k).zero_append (Balanced.zero_append (w := [':']) (Balanced.plain (by decide)) hv)

theorem Balanced.bool (b : Bool) : Balanced (if b then "true" else "false").toList 0 := by
  cases b <;> exact Balanced.plains (by simp [Plain])

mutual

/-- **A tree's document is balanced, twice its levels high**: each level an object and the
array of its children. -/
theorem Balanced.documentText : ∀ n : Node, Balanced n.documentText.toList (2 * n.levels)
  | .node d cs => by
    rw [Node.documentText_toList]
    have hitems : Balanced (Node.itemsChars cs) (2 * Node.levelsOf cs) := by
      cases cs with
      | nil => simpa [Node.itemsChars_nil] using Balanced.nil
      | cons c cs =>
        rw [Node.itemsChars_cons]
        have := (Balanced.documentText c).append (Balanced.items cs)
        simpa [Nat.mul_max_mul_left] using this
    have hchildren := Balanced.field "children" (hitems.wrap (Or.inr rfl) (Or.inr rfl))
    -- the scalar fields are balanced with height zero, one after the other
    have h₁ := Balanced.field "groupId" (Balanced.quote d.coordinate.group)
    have h₂ :=
      h₁.zero_append (Balanced.field "artifactId" (Balanced.quote d.coordinate.artifact)).comma
    have h₃ :=
      h₂.zero_append (Balanced.field "version" (Balanced.quote d.coordinate.version)).comma
    have h₄ :=
      h₃.zero_append (Balanced.field "type" (Balanced.quote d.coordinate.extension)).comma
    have h₅ := h₄.zero_append
      (Balanced.field "classifier" (Balanced.quote d.coordinate.classifier)).comma
    have h₆ := h₅.zero_append (Balanced.field "scope" (Balanced.quote d.scope)).comma
    have h₇ := h₆.zero_append (Balanced.field "optional" (Balanced.bool d.optional)).comma
    have := (h₇.zero_append hchildren.comma).wrap (Or.inl rfl) (Or.inl rfl)
    simpa [Node.levels_node, Nat.mul_add] using this

/-- The items after the first in the array of children. -/
theorem Balanced.items : ∀ cs : List Node,
    Balanced (cs.flatMap fun c => ',' :: c.documentText.toList) (2 * Node.levelsOf cs)
  | [] => by simpa using Balanced.nil
  | c :: cs => by
    have := (Balanced.documentText c).comma.append (Balanced.items cs)
    simpa [Nat.mul_max_mul_left] using this

end

/-- **A tree's document nests exactly twice its levels deep.** -/
theorem nesting_documentText (n : Node) : nesting n.documentText = 2 * n.levels :=
  nesting_eq (Balanced.documentText n)

end Document

namespace Node

theorem length_quote (s : String) : 2 ≤ (quote s).toList.length := by
  simp [quote_toList]

mutual

/-- A tree's document has at least five characters for each level. -/
theorem levels_le_length : ∀ n : Node, 5 * n.levels ≤ n.documentText.toList.length
  | .node d cs => by
    have hitems : 5 * levelsOf cs ≤ (itemsChars cs).length := by
      cases cs with
      | nil => simp
      | cons c cs =>
        rw [itemsChars_cons, List.length_append, levelsOf_cons]
        have h₁ := levels_le_length c
        have h₂ := levelsOf_le_length cs
        omega
    have hk := length_quote "children"
    rw [documentText_toList, levels_node]
    simp only [fieldChars, List.length_cons, List.length_append]
    omega

theorem levelsOf_le_length : ∀ cs : List Node,
    5 * levelsOf cs ≤ (cs.flatMap fun c => ',' :: c.documentText.toList).length
  | [] => by simp
  | c :: cs => by
    have h₁ := levels_le_length c
    have h₂ := levelsOf_le_length cs
    rw [List.flatMap_cons, List.length_append, List.length_cons, levelsOf_cons]
    omega

end

end Node

end PinAudit
