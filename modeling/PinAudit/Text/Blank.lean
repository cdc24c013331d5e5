/-!
# Blank characters and trimming

A character is *blank* when it has the Unicode `White_Space` property: the ASCII tab, line
feed, vertical tab, form feed, carriage return and space, and sixteen characters beyond ASCII
(next line, no-break space, the Ogham space mark, the eleven spaces of the General Punctuation
block from en quad to hair space, the line and paragraph separators, the narrow and the
medium mathematical spaces, and the ideographic space).

Every text this library trims is trimmed by this one rule: `Text.trim` drops blank characters
from both ends, `Text.trimStart` from the front only.
-/

namespace PinAudit.Text

/-- **Blank characters** are those with the Unicode `White_Space` property. -/
def isBlank (c : Char) : Bool :=
  let n := c.toNat
  (0x09 ≤ n && n ≤ 0x0D) || n == 0x20 || n == 0x85 || n == 0xA0 || n == 0x1680 ||
    (0x2000 ≤ n && n ≤ 0x200A) || n == 0x2028 || n == 0x2029 || n == 0x202F ||
    n == 0x205F || n == 0x3000

/-- The characters after the leading blank ones. -/
def dropBlank : List Char → List Char
  | [] => []
  | c :: cs => if isBlank c then dropBlank cs else c :: cs

/-- The characters with blank ones removed from both ends. -/
def trimChars (cs : List Char) : List Char :=
  (dropBlank (dropBlank cs).reverse).reverse

/-- A text without its leading blank characters. -/
def trimStart (s : String) : String :=
  String.ofList (dropBlank s.toList)

/-- A text without its blank characters at either end. -/
def trim (s : String) : String :=
  String.ofList (trimChars s.toList)

/-- A text is blank when it holds blank characters only (the empty text included). -/
def allBlank (s : String) : Bool :=
  s.toList.all isBlank

@[simp] theorem dropBlank_nil : dropBlank [] = [] := rfl

theorem dropBlank_head (cs : List Char) (c : Char) (rest : List Char)
    (h : dropBlank cs = c :: rest) : isBlank c = false := by
  induction cs with
  | nil => simp at h
  | cons d ds ih =>
    unfold dropBlank at h
    split at h
    · exact ih h
    · obtain ⟨rfl, -⟩ := List.cons.inj h
      simp_all

end PinAudit.Text
