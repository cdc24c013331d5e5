/-!
# TOML values and errors

A TOML document read into values that remember where they stand in the text (`Span`, byte
offsets), so that an error about a value can point at it.

An error is printed with the line and column of its start, the line itself, and carets under
the span:

```text
TOML parse error at line 2, column 19
  |
2 | allow_snapshots = "yes"
  |                   ^^^^^
invalid type: string "yes", expected a boolean
```

The column counts characters, except when the error starts inside a character of more than one
byte, where it counts bytes; at the end of the text it is one past the last character. At least
one caret is printed, and no more than reach the end of the line.

A message that names what was expected ends with `, expected` and the expected items, or
`nothing`, as in `invalid fraction, expected digits`.

Main definitions: `Toml.Value`, `Toml.Error`, `Toml.Error.expecting`, `Toml.Error.render`.
-/

namespace PinAudit.Toml

/-- A stretch of the text, by byte offsets. -/
structure Span where
  start : Nat
  stop : Nat
  deriving DecidableEq, Repr, Inhabited

/-- The empty span at an offset. -/
def Span.at (pos : Nat) : Span := ⟨pos, pos⟩

/-- **A TOML value.** Keys and values of tables and items of arrays keep their spans. An integer
is `none` when a base prefix has no digits after it (`0x`); a float is `none` when it is too
large for a double. -/
inductive Value where
  | str (s : String)
  | integer (value : Option Int)
  | float (bits : Option UInt64)
  | boolean (b : Bool)
  | datetime (text : String)
  | array (items : List (Value × Span))
  | table (entries : List (String × Span × Value × Span))
  deriving Repr, Inhabited

/-- **An error** with the span it is about, if any. -/
structure Error where
  message : String
  span : Option Span
  deriving Repr

/-- **What an error says was expected**: text to be written as it is, or a description. -/
inductive Expected where
  | literal (text : String)
  | description (text : String)
  deriving DecidableEq, Repr

/-- How an expected item is written: a line break as `newline`, other text in backticks, a
description as it is. -/
def Expected.render : Expected → String
  | .literal "\n" => "newline"
  | .literal t => "`" ++ t ++ "`"
  | .description d => d

/-- The message of an error that says what it expected: `nothing` when the list is empty, else
the items joined by commas. -/
def expectingText (description : String) (expected : List Expected) : String :=
  description ++ ", expected " ++
    (if expected.isEmpty then "nothing" else ", ".intercalate (expected.map Expected.render))

/-- An error about a span that says what was expected there. -/
def Error.expecting (description : String) (expected : List Expected) (span : Span) : Error :=
  ⟨expectingText description expected, some span⟩

/-- An error about a span. -/
def Error.about (message : String) (span : Span) : Error := ⟨message, some span⟩

/-- The line (from 0) and column (from 0) of a byte offset in a text. -/
def position (text : List UInt8) (index : Nat) : Nat × Nat :=
  if text.isEmpty then (0, index)
  else
    let safe := min index (text.length - 1)
    let beyond := index - safe
    let before := text.take safe
    let lineStart := match (before.reverse.findIdx? (· == 10)) with
      | some k => safe - k
      | none => 0
    let line := (text.take lineStart).count 10
    let upto := (text.drop lineStart).take (safe + 1 - lineStart)
    let column := match String.fromUTF8? (ByteArray.mk upto.toArray) with
      | some s => s.length - 1
      | none => safe - lineStart
    (line, column + beyond)

/-- Spaces. -/
def spaces (n : Nat) : String := String.ofList (List.replicate n ' ')

/-- **An error as printed** for a text. -/
def Error.render (e : Error) (text : String) : String :=
  match e.span with
  | none => e.message ++ "\n"
  | some span =>
    let bytes := text.toUTF8.toList
    let (line, column) := position bytes span.start
    let lineNo := toString (line + 1)
    let gutter := lineNo.length
    let content := ((text.splitOn "\n").drop line).head?.getD ""
    let width := min (span.stop - span.start) (content.utf8ByteSize - column)
    "TOML parse error at line " ++ lineNo ++ ", column " ++ toString (column + 1) ++ "\n" ++
      spaces (gutter + 1) ++ "|\n" ++
      lineNo ++ " | " ++ content ++ "\n" ++
      spaces (gutter + 1) ++ "|" ++ spaces (column + 1) ++
      String.ofList (List.replicate (max 1 width) '^') ++ "\n" ++
      e.message ++ "\n"

end PinAudit.Toml
