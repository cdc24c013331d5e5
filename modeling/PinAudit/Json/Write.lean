import PinAudit.Json.Value
import PinAudit.Decimal.Shortest

/-!
# Writing JSON

Two layouts of one grammar. The *compact* layout puts no blank anywhere; the *pretty* layout
puts each array item and object field on its own line, indented by two spaces per level, with
`": "` after a key, and writes an empty array or object as `[]` or `{}`.

Strings are quoted with `"`; the quote and the backslash are escaped, as are the control
characters below U+0020 (`\b`, `\t`, `\n`, `\f`, `\r` by name, the others as `\u00XX` with
lower-case hex). Nothing else is escaped. Doubles use `Double.scientific`; a non-finite double
is written `null`.
-/

namespace PinAudit.Json

/-- A hexadecimal digit, lower case. -/
def hexDigit (n : Nat) : Char :=
  if n < 10 then Char.ofNat (48 + n) else Char.ofNat (87 + n)

/-- One character of a string's body, escaped. -/
def escapeChar (c : Char) : List Char :=
  if c == '"' then ['\\', '"']
  else if c == '\\' then ['\\', '\\']
  else if c == '\n' then ['\\', 'n']
  else if c == '\r' then ['\\', 'r']
  else if c == '\t' then ['\\', 't']
  else if c.toNat == 8 then ['\\', 'b']
  else if c.toNat == 12 then ['\\', 'f']
  else if c.toNat < 0x20 then ['\\', 'u', '0', '0', hexDigit (c.toNat / 16), hexDigit (c.toNat % 16)]
  else [c]

/-- **A quoted string.** -/
def quote (s : String) : String :=
  String.ofList ('"' :: (s.toList.flatMap escapeChar ++ ['"']))

/-- The text of a number. -/
def Number.render : Number → String
  | .nat n => toString n
  | .neg i => toString i
  | .double bits => (Double.scientific bits).getD "null"

mutual

/-- **Compact text** of a value. -/
def Value.compact : Value → String
  | .null => "null"
  | .bool b => if b then "true" else "false"
  | .num n => n.render
  | .str s => quote s
  | .arr xs => "[" ++ Value.compactItems xs ++ "]"
  | .obj fs => "\x7b" ++ Value.compactFields fs ++ "\x7d"

/-- Compact items of an array, comma-separated. -/
def Value.compactItems : List Value → String
  | [] => ""
  | [x] => x.compact
  | x :: xs => x.compact ++ "," ++ Value.compactItems xs

/-- Compact fields of an object, comma-separated. -/
def Value.compactFields : List (String × Value) → String
  | [] => ""
  | [(k, v)] => quote k ++ ":" ++ v.compact
  | (k, v) :: fs => quote k ++ ":" ++ v.compact ++ "," ++ Value.compactFields fs

end

/-- Indentation for a nesting level. -/
def indent (level : Nat) : String := String.ofList (List.replicate (2 * level) ' ')

mutual

/-- **Pretty text** of a value at a nesting level. -/
def Value.pretty (level : Nat) : Value → String
  | .arr [] => "[]"
  | .obj [] => "\x7b\x7d"
  | .arr xs => "[\n" ++ Value.prettyItems (level + 1) xs ++ "\n" ++ indent level ++ "]"
  | .obj fs => "\x7b\n" ++ Value.prettyFields (level + 1) fs ++ "\n" ++ indent level ++ "\x7d"
  | v => v.compact

/-- Pretty items, one per line. -/
def Value.prettyItems (level : Nat) : List Value → String
  | [] => ""
  | [x] => indent level ++ x.pretty level
  | x :: xs => indent level ++ x.pretty level ++ ",\n" ++ Value.prettyItems level xs

/-- Pretty fields, one per line. -/
def Value.prettyFields (level : Nat) : List (String × Value) → String
  | [] => ""
  | [(k, v)] => indent level ++ quote k ++ ": " ++ v.pretty level
  | (k, v) :: fs => indent level ++ quote k ++ ": " ++ v.pretty level ++ ",\n" ++
      Value.prettyFields level fs

end

end PinAudit.Json
