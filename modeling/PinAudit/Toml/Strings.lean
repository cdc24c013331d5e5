import PinAudit.Toml.Syntax

/-!
# TOML strings and keys

Decoding the pieces that are strings or keys, each failure pointing at the byte it is about.

- A literal string (`'…'`) holds tabs, printable characters but `'`, and anything beyond ASCII,
  as they are.
- A basic string (`"…"`) holds the same but `"` and `\`, and escapes: `\b \t \n \f \r \e \" \\`,
  `\xHH`, `\uHHHH` and `\UHHHHHHHH`, the last three naming a Unicode scalar value.
- A multi-line string drops a line break right after its opening quotes and may hold line
  breaks, which it keeps as written; a carriage return must come with a line feed. In a
  multi-line basic string a backslash followed by blanks and a line break drops them and all
  blanks and line breaks after them.
- A key is a bare key (ASCII letters, digits, `-`, `_`, not empty) or a one-line string.

Main definitions: `Toml.Piece.stringText`, `Toml.Piece.decodeKey`.
-/

namespace PinAudit.Toml

/-- Characters a basic string holds as they are: blanks, printable ASCII but `"` and `\`, and
anything beyond ASCII. -/
def isBasicPlain (c : Char) : Bool :=
  c == ' ' || c == '\t' || c == '!' || ('#' ≤ c && c ≤ '[') || (']' ≤ c && c.toNat ≤ 0x7E) ||
    c.toNat ≥ 0x80

/-- Characters a literal string holds: tab, printable ASCII but `'`, and anything beyond ASCII. -/
def isLiteralPlain (c : Char) : Bool :=
  c == '\t' || (' ' ≤ c && c ≤ '&') || ('(' ≤ c && c.toNat ≤ 0x7E) || c.toNat ≥ 0x80

/-- A hexadecimal digit. -/
def isHexDigit (c : Char) : Bool :=
  c.isDigit || ('a' ≤ c && c ≤ 'f') || ('A' ≤ c && c ≤ 'F')

/-- The value of a digit up to base 16. -/
def digitValue (c : Char) : Nat :=
  if c.isDigit then c.toNat - 48
  else if 'a' ≤ c && c ≤ 'f' then c.toNat - 87
  else if 'A' ≤ c && c ≤ 'F' then c.toNat - 55
  else 0

/-- The value of digits in a base. -/
def digitsIn (base : Nat) (ds : List Char) : Nat :=
  ds.foldl (fun n c => base * n + digitValue c) 0

/-- The error for a carriage return without a line feed, at the offset after it. -/
def loneCarriageReturn (pos : Nat) : Error :=
  Error.expecting "carriage return must be followed by newline" [.literal "\n"] (Span.at pos)

/-- The escapes that an error about a bad escape lists. -/
def escapeNames : List Expected :=
  ["b", "e", "f", "n", "r", "\\", "\"", "x", "u", "U"].map .literal

/-- The `n` hex digits of an escape at `pos`: the character, the rest and its offset. -/
def hexEscape (n : Nat) (cs : List Char) (pos : Nat) : Except Error (Char × List Char × Nat) :=
  let digits := (cs.takeWhile isHexDigit).take n
  if digits.length != n then
    .error (Error.expecting "too few unicode value digits" [.description "unicode hexadecimal value"]
      (Span.at (pos + digits.length)))
  else
    let v := digitsIn 16 digits
    if v < 0xD800 || (0xDFFF < v && v ≤ 0x10FFFF) then .ok (Char.ofNat v, cs.drop n, pos + n)
    else
      .error (Error.expecting "invalid value" [.description "unicode hexadecimal value"] (Span.at pos))

/-- **An escape** after its backslash, its letter at `pos`: the character, the rest and its
offset. -/
def escape (cs : List Char) (pos : Nat) : Except Error (Char × List Char × Nat) :=
  let missing := Error.expecting "missing escaped value" escapeNames (Span.at pos)
  match cs with
  | [] => .error missing
  | c :: rest =>
    match c with
    | 'b' => .ok (Char.ofNat 8, rest, pos + 1)
    | 'e' => .ok (Char.ofNat 27, rest, pos + 1)
    | 'f' => .ok (Char.ofNat 12, rest, pos + 1)
    | 'n' => .ok ('\n', rest, pos + 1)
    | 'r' => .ok ('\r', rest, pos + 1)
    | 't' => .ok ('\t', rest, pos + 1)
    | '"' => .ok ('"', rest, pos + 1)
    | '\\' => .ok ('\\', rest, pos + 1)
    | 'x' => hexEscape 2 rest (pos + 1)
    | 'u' => hexEscape 4 rest (pos + 1)
    | 'U' => hexEscape 8 rest (pos + 1)
    | _ => .error missing

/-- The body of a basic string at `pos`, decoded after `acc` (latest first). Each step takes at
least one character, so `fuel` at the body's length is enough. -/
def basicBody : Nat → List Char → Nat → List Char → Except Error (List Char)
  | 0, _, _, acc => .ok acc.reverse
  | _, [], _, acc => .ok acc.reverse
  | fuel + 1, c :: cs, pos, acc =>
    if c == '\\' then
      match escape cs (pos + 1) with
      | .ok (e, rest, next) => basicBody fuel rest next (e :: acc)
      | .error err => .error err
    else if isBasicPlain c then basicBody fuel cs (pos + c.utf8Size) (c :: acc)
    else
      let run := (c :: cs).takeWhile fun d => !(isBasicPlain d || d == '\\')
      .error (Error.expecting "invalid basic string"
        [.description "non-double-quote visible characters", .literal "\\"]
        ⟨pos, pos + byteLength run⟩)

/-- Skip blanks and line breaks; a carriage return must come with a line feed. -/
def skipBreaks : List Char → Nat → Except Error (List Char × Nat)
  | [], pos => .ok ([], pos)
  | '\r' :: '\n' :: rest, pos => skipBreaks rest (pos + 2)
  | '\r' :: _, pos => .error (loneCarriageReturn (pos + 1))
  | c :: cs, pos =>
    if c == ' ' || c == '\t' || c == '\n' then skipBreaks cs (pos + 1) else .ok (c :: cs, pos)

/-- A line ending backslash in a multi-line basic string, after the backslash at `pos`: blanks,
a line break, then any blanks and line breaks. -/
def lineContinuation (cs : List Char) (pos : Nat) : Except Error (List Char × Nat) :=
  let blanks := cs.takeWhile fun c => c == ' ' || c == '\t'
  let pos := pos + blanks.length
  match cs.drop blanks.length with
  | '\n' :: rest => skipBreaks rest (pos + 1)
  | '\r' :: '\n' :: rest => skipBreaks rest (pos + 2)
  | '\r' :: _ => .error (loneCarriageReturn (pos + 1))
  | _ => .error (Error.expecting "invalid multi-line basic string" [.literal "\n"] (Span.at pos))

/-- The body of a multi-line basic string at `pos`, decoded after `acc` (latest first). -/
def multiBasicBody : Nat → List Char → Nat → List Char → Except Error (List Char)
  | 0, _, _, acc => .ok acc.reverse
  | _, [], _, acc => .ok acc.reverse
  | fuel + 1, c :: cs, pos, acc =>
    if c == '\\' then
      match cs with
      | d :: _ =>
        if d == ' ' || d == '\t' || d == '\r' || d == '\n' then
          match lineContinuation cs (pos + 1) with
          | .ok (rest, next) => multiBasicBody fuel rest next acc
          | .error err => .error err
        else
          match escape cs (pos + 1) with
          | .ok (e, rest, next) => multiBasicBody fuel rest next (e :: acc)
          | .error err => .error err
      | [] => .error (Error.expecting "missing escaped value" escapeNames (Span.at (pos + 1)))
    else if c == '\r' then
      match cs with
      | '\n' :: rest => multiBasicBody fuel rest (pos + 2) ('\n' :: '\r' :: acc)
      | _ => .error (loneCarriageReturn (pos + 1))
    else if isBasicPlain c || c == '"' || c == '\n' then
      multiBasicBody fuel cs (pos + c.utf8Size) (c :: acc)
    else
      let run := (c :: cs).takeWhile fun d =>
        !(isBasicPlain d || d == '"' || d == '\\' || d == '\n' || d == '\r')
      .error (Error.expecting "invalid multi-line basic string"
        [.literal "\\", .description "characters"] ⟨pos, pos + byteLength run⟩)

/-- Check the body of a multi-line literal string at `pos`. -/
def multiLiteralBody : List Char → Nat → Except Error Unit
  | [], _ => .ok ()
  | '\r' :: '\n' :: rest, pos => multiLiteralBody rest (pos + 2)
  | '\r' :: _, pos => .error (loneCarriageReturn (pos + 1))
  | c :: cs, pos =>
    if c == '\'' || c == '\n' || isLiteralPlain c then multiLiteralBody cs (pos + c.utf8Size)
    else
      .error (Error.expecting "invalid multi-line literal string"
        [.description "non-single-quote characters"] (Span.at pos))

namespace Piece

/-- The body of a quoted piece between its delimiters, with the offset where it starts: the
opening delimiter and, for a multi-line string, a line break right after it are dropped, then
the closing delimiter. A missing delimiter is an error at the start or the end. -/
def body (p : Piece) (delimiter : List Char) (multiline : Bool) (description : String)
    (quote : String) : Except Error (List Char × Nat) :=
  let missing (pos : Nat) := Error.expecting description [.literal quote] (Span.at pos)
  if !delimiter.isPrefixOf p.text then .error (missing p.span.start)
  else
    let afterOpen := p.text.drop delimiter.length
    let (inner, skipped) : List Char × Nat :=
      if multiline then
        match afterOpen with
        | '\n' :: rest => (rest, 1)
        | '\r' :: '\n' :: rest => (rest, 2)
        | rest => (rest, 0)
      else (afterOpen, 0)
    if !delimiter.reverse.isPrefixOf inner.reverse then .error (missing p.span.stop)
    else .ok (inner.take (inner.length - delimiter.length), p.span.start + delimiter.length + skipped)

/-- The text of a literal string. -/
def literalText (p : Piece) : Except Error (List Char) := do
  let (cs, pos) ← p.body ['\''] false "invalid literal string" "'"
  match firstFailing isLiteralPlain cs pos with
  | some bad =>
    .error (Error.expecting "invalid literal string"
      [.description "non-single-quote visible characters"] (Span.at bad))
  | none => pure cs

/-- The text of a basic string. -/
def basicText (p : Piece) : Except Error (List Char) := do
  let (cs, pos) ← p.body ['"'] false "invalid basic string" "\""
  basicBody (cs.length + 1) cs pos []

/-- The text of a multi-line literal string. -/
def multiLiteralText (p : Piece) : Except Error (List Char) := do
  let (cs, pos) ← p.body ['\'', '\'', '\''] true "invalid multi-line literal string" "'"
  multiLiteralBody cs pos
  pure cs

/-- The text of a multi-line basic string. -/
def multiBasicText (p : Piece) : Except Error (List Char) := do
  let (cs, pos) ← p.body ['"', '"', '"'] true "invalid multi-line basic string" "\""
  multiBasicBody (cs.length + 1) cs pos []

/-- **The text of a quoted piece**; a bare piece is not a string and gives none. -/
def stringText (p : Piece) : Option (Except Error String) :=
  match p.quoting with
  | .literal => some (String.ofList <$> p.literalText)
  | .basic => some (String.ofList <$> p.basicText)
  | .multiLiteral => some (String.ofList <$> p.multiLiteralText)
  | .multiBasic => some (String.ofList <$> p.multiBasicText)
  | .bare => none

/-- A character of a bare key: an ASCII letter or digit, `-` or `_`. -/
def isBareKeyChar (c : Char) : Bool := (c.isAlphanum && c.toNat < 128) || c == '-' || c == '_'

/-- What a bare key is made of, for messages. -/
def bareKeyExpected : List Expected :=
  [.description "letters", .description "numbers", .literal "-", .literal "_"]

/-- **The name a key part stands for.** -/
def decodeKey (p : Piece) : Except Error String :=
  match p.quoting with
  | .literal => String.ofList <$> p.literalText
  | .basic => String.ofList <$> p.basicText
  | .multiLiteral =>
    .error (Error.expecting "keys cannot be multi-line literal strings"
      [.description "basic string", .description "literal string"] p.span)
  | .multiBasic =>
    .error (Error.expecting "keys cannot be multi-line basic strings"
      [.description "basic string", .description "literal string"] p.span)
  | .bare =>
    if p.text.isEmpty then
      .error (Error.expecting "unquoted keys cannot be empty" bareKeyExpected (Span.at p.span.start))
    else
      match firstFailing isBareKeyChar p.text p.span.start with
      | some pos => .error (Error.expecting "invalid unquoted key" bareKeyExpected (Span.at pos))
      | none => .ok (String.ofList p.text)

end Piece

end PinAudit.Toml
