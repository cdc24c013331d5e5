import PinAudit.Text.Printable

/-!
# Quoted text for messages

Messages quote a text between double quotes with its special characters escaped: the quote and
the backslash with a backslash, tab, carriage return, line feed and NUL as `\t`, `\r`, `\n`,
`\0`, and the characters that are not printable or that extend the one before them as
`\u{hex}` (lower-case hex, no leading zeros). Everything else stands as it is.
-/

namespace PinAudit.Text

/-- Lower-case hexadecimal digits of a number, without leading zeros. -/
def hexDigits (n : Nat) : String :=
  String.ofList ((Nat.toDigits 16 n).map fun c => c)

/-- Characters written as `\u{hex}` in quoted text: those that extend the character before
them and those that are not printable. -/
def isHidden (c : Char) : Bool := isGraphemeExtend c || !isPrintable c

/-- One character of quoted text. -/
def quoteChar (c : Char) : String :=
  if c == '"' then "\\\""
  else if c == '\\' then "\\\\"
  else if c == '\n' then "\\n"
  else if c == '\r' then "\\r"
  else if c == '\t' then "\\t"
  else if c.toNat == 0 then "\\0"
  else if isHidden c then "\\u\x7b" ++ hexDigits c.toNat ++ "\x7d"
  else c.toString

/-- **Quote a text** for a message. -/
def quoted (s : String) : String :=
  "\"" ++ String.join (s.toList.map quoteChar) ++ "\""

end PinAudit.Text
