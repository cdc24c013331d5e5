import PinAudit.Text.Cased
/-!
# Letter case

Two case maps. `asciiLower` lowers the ASCII capitals and leaves every other character alone;
version texts are compared under it. `lowerText` is the Unicode lower-case map: each character
goes to its lower case (`Text.lowerShift`), the capital I with dot above to a small i followed by
a combining dot, and a capital sigma to the final sigma when it ends a word: when, looking
through case-ignorable characters, a cased character comes before it and none after it.
-/

namespace PinAudit.Text

/-- The ASCII lower case of a character; other characters are unchanged. -/
def asciiLowerChar (c : Char) : Char :=
  if 'A' ≤ c ∧ c ≤ 'Z' then Char.ofNat (c.toNat + 32) else c

/-- The ASCII lower case of a text. -/
def asciiLower (s : String) : String :=
  String.ofList (s.toList.map asciiLowerChar)

/-- The lower case of one character on its own; a character without one maps to itself. -/
def lowerChar (c : Char) : Char :=
  match lowerShift c.toNat with
  | some n => Char.ofNat n
  | none => c

/-- Whether the first character that case rules do not look through is cased. -/
def casedBeyond (cs : List Char) : Bool :=
  match cs.dropWhile isCaseIgnorable with
  | c :: _ => isCased c
  | [] => false

/-- Lower case of a list of characters; `before` holds the characters before it, nearest
first. -/
def lowerCharsFrom : List Char → List Char → List Char
  | _, [] => []
  | before, c :: cs =>
    let rest := lowerCharsFrom (c :: before) cs
    if c.toNat = 0x130 then 'i' :: Char.ofNat 0x307 :: rest
    else if c.toNat = 0x3A3 then
      (if casedBeyond before && !casedBeyond cs then Char.ofNat 0x3C2 else Char.ofNat 0x3C3) :: rest
    else lowerChar c :: rest

/-- **The Unicode lower case of a text.** -/
def lowerText (s : String) : String :=
  String.ofList (lowerCharsFrom [] s.toList)

end PinAudit.Text
