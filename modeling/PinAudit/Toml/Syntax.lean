import PinAudit.Toml.Token

/-!
# The shape of a TOML document

The second step reads the tokens into the expressions of a document, table headers and
key-value pairs, without looking inside keys and values: a key part or a scalar value is kept
as a `Piece` of text with the way it is quoted, to be decoded later. What this step checks is
how the tokens are arranged, the characters of comments, that every carriage return is
followed by a line feed, and how deeply arrays and inline tables nest.

Some gaps are not errors here. A missing key part (`[]`, `a. = 1`, `= 1`) or a missing value
(`a =`) becomes an empty bare piece at its place, which decoding refuses; a value missing before
the `}` or `,` of an inline table, or before a closing brace elsewhere, becomes an empty literal
string, which decoding refuses too. A header whose key has such a gap and that is not closed is
read up to the end of its line.

Inline tables may span lines, hold comments and end with a comma; arrays may do the same. The
first error found is the one reported, before anything that decoding could find.

Main definitions: `Toml.Piece`, `Toml.Node`, `Toml.Expression`, `Toml.Expression.readAll`.
-/

namespace PinAudit.Toml

/-- How a piece of text is quoted. -/
inductive Quoting where
  | bare
  | literal
  | basic
  | multiLiteral
  | multiBasic
  deriving DecidableEq, Repr

/-- **A key part or a scalar value as written**: its characters, span and quoting. -/
structure Piece where
  text : List Char
  span : Span
  quoting : Quoting
  deriving Repr

/-- **A value as written**: a scalar, an array with its items, or an inline table with its
entries, each a dotted key and a value; an array or inline table spans its brackets. -/
inductive Node where
  | scalar (piece : Piece)
  | array (span : Span) (items : List Node)
  | inlineTable (span : Span) (entries : List (List Piece × Node))

/-- **An expression of a document**: a table header, an array-of-tables header, or a key-value
pair. -/
inductive Expression where
  | table (keys : List Piece)
  | arrayTable (keys : List Piece)
  | keyValue (keys : List Piece) (value : Node)

/-- The quoting of a string token; other tokens are bare. -/
def TokenKind.quoting : TokenKind → Quoting
  | .literal => .literal
  | .basic => .basic
  | .multiLiteral => .multiLiteral
  | .multiBasic => .multiBasic
  | _ => .bare

/-- Whether a token can be a key part: a string or an atom. -/
def TokenKind.isKeyPart : TokenKind → Bool
  | .literal | .basic | .multiLiteral | .multiBasic | .atom => true
  | _ => false

/-- The piece of a token. -/
def Token.piece (t : Token) : Piece := ⟨t.text, t.span, t.kind.quoting⟩

/-- An empty piece standing for something missing right before a token. -/
def Token.gap (t : Token) (q : Quoting) : Piece := ⟨[], Span.at t.span.start, q⟩

/-- How deeply arrays and inline tables may nest. -/
def maxNesting : Nat := 80

/-- Where the reader of tokens stands: the tokens left, and the span of the last token read
that is not a blank, comment or newline. -/
structure TokenCursor where
  rest : List Token
  last : Span

/-- A reader of tokens. -/
abbrev ShapeReader := StateT TokenCursor (Except Error)

namespace ShapeReader

/-- The next token, not read; the end of the text once the tokens run out. -/
def peek : ShapeReader Token := do
  let c ← get
  match c.rest with
  | t :: _ => pure t
  | [] => pure ⟨.eof, [], Span.at c.last.stop⟩

/-- Read the next token; the end of the text is never used up. -/
def take : ShapeReader Unit := do
  let c ← get
  match c.rest with
  | t :: more =>
    if t.kind == .eof then pure ()
    else
      let quiet := t.kind == .blank || t.kind == .comment || t.kind == .newline
      set ({ rest := more, last := if quiet then c.last else t.span } : TokenCursor)
  | [] => pure ()

/-- Fail with an error that says what was expected. -/
def fail {α : Type} (description : String) (expected : List Expected) (span : Span) :
    ShapeReader α :=
  throw (Error.expecting description expected span)

/-- Characters a comment may hold: tab, printable ASCII and anything beyond ASCII. -/
def isCommentChar (c : Char) : Bool :=
  c == '\t' || (' ' ≤ c && c.toNat ≤ 0x7E) || c.toNat ≥ 0x80

/-- Check a comment or newline token that was read: a comment holds only comment characters,
and a carriage return is followed by a line feed. -/
def check (t : Token) : ShapeReader Unit :=
  match t.kind with
  | .comment =>
    match firstFailing isCommentChar t.text t.span.start with
    | some pos =>
      fail "invalid comment character" [.description "printable characters"] (Span.at pos)
    | none => pure ()
  | .newline =>
    if t.text == ['\r'] then
      fail "carriage return must be followed by newline" [.literal "\n"] (Span.at t.span.stop)
    else pure ()
  | _ => pure ()

/-- Skip blanks. -/
def skipBlanks : Nat → ShapeReader Unit
  | 0 => pure ()
  | fuel + 1 => do
    if (← peek).kind == .blank then take; skipBlanks fuel

/-- After a value or header: blanks, then a comment, a newline or the end. -/
def lineEnd : Nat → ShapeReader Unit
  | 0 => pure ()
  | fuel + 1 => do
    let t ← peek
    match t.kind with
    | .blank => take; lineEnd fuel
    | .comment | .newline => take; check t
    | .eof => pure ()
    | _ => fail "unexpected key or value" [.literal "\n", .literal "#"] (Span.at t.span.start)

/-- Skip the rest of a line, with its newline. -/
def skipLine : Nat → ShapeReader Unit
  | 0 => pure ()
  | fuel + 1 => do
    let t ← peek
    match t.kind with
    | .eof => pure ()
    | .newline => take; check t
    | .comment => take; check t; skipLine fuel
    | _ => take; skipLine fuel

/-- **The parts of a dotted key** after those in `acc` (latest first). When `awaiting`, a part
is due (at the start of a header's key, or after a dot); a missing part becomes a gap, and
the answer then says the key is not whole. -/
def keyParts : Nat → Bool → List Piece → ShapeReader (List Piece × Bool)
  | 0, _, acc => pure (acc.reverse, true)
  | fuel + 1, false, acc => do
    skipBlanks fuel
    if (← peek).kind == .dot then take; keyParts fuel true acc
    else pure (acc.reverse, true)
  | fuel + 1, true, acc => do
    let t ← peek
    if t.kind == .blank then take; keyParts fuel true acc
    else if t.kind == .dot then take; keyParts fuel true (t.gap .bare :: acc)
    else if t.kind.isKeyPart then take; keyParts fuel false (t.piece :: acc)
    else pure ((t.gap .bare :: acc).reverse, false)

/-- A scalar value that goes on over the dots and atoms right after it, as in `1.5` and
`07:32:00.25`. -/
def joinScalar : Nat → Piece → ShapeReader Piece
  | 0, p => pure p
  | fuel + 1, p => do
    let t ← peek
    if t.kind == .dot || t.kind == .atom then
      take
      joinScalar fuel ⟨p.text ++ t.text, ⟨p.span.start, t.span.stop⟩, .bare⟩
    else pure p

/-- What an inline table waits for next. -/
inductive Awaiting where
  | key
  | equals
  | value
  | comma
  deriving DecidableEq, Repr

/-- What is expected in each state of an inline table, for messages. -/
def Awaiting.expected : Awaiting → List Expected
  | .key => [.description "key"]
  | .equals => [.literal "="]
  | .value => [.description "value"]
  | .comma => [.literal ","]

mutual

/-- **A value** at the reader, inside `depth` arrays and inline tables. A missing value is a
gap, not read past. -/
def value : Nat → Nat → ShapeReader Node
  | 0, _ => do pure (.scalar ((← peek).gap .bare))
  | fuel + 1, depth => do
    let t ← peek
    match t.kind with
    | .openBracket => take; array fuel depth t
    | .openBrace => take; inlineTable fuel depth t
    | .closeBrace => pure (.scalar (t.gap .literal))
    | .closeBracket => fail "missing array opening" [.literal "["] (Span.at t.span.start)
    | .equals => fail "extra `=`" [] (Span.at t.span.start)
    | .literal | .basic | .multiLiteral | .multiBasic => take; pure (.scalar t.piece)
    | .dot | .atom => take; pure (.scalar (← joinScalar fuel t.piece))
    | _ => pure (.scalar (t.gap .bare))

/-- An array after its opening bracket `openTok`. -/
def array (fuel depth : Nat) (openTok : Token) : ShapeReader Node := do
  if depth + 1 > maxNesting then
    fail "cannot recurse further; max recursion depth met" [] openTok.span
  else arrayItems fuel (depth + 1) openTok true []

/-- The items of an array up to its closing bracket; `needValue` until an item comes after
the opening bracket or a comma. -/
def arrayItems : Nat → Nat → Token → Bool → List Node → ShapeReader Node
  | 0, _, openTok, _, items => pure (.array openTok.span items.reverse)
  | fuel + 1, depth, openTok, needValue, items => do
    let t ← peek
    match t.kind with
    | .blank => take; arrayItems fuel depth openTok needValue items
    | .comment | .newline => take; check t; arrayItems fuel depth openTok needValue items
    | .eof => fail "unclosed array" [.literal "]"] (Span.at (← get).last.stop)
    | .comma =>
      if needValue then fail "extra comma in array" [.description "value"] t.span
      else take; arrayItems fuel depth openTok true items
    | .equals => fail "unexpected `=` in array" [.description "value", .literal "]"] t.span
    | .closeBracket => take; pure (.array ⟨openTok.span.start, t.span.stop⟩ items.reverse)
    | .closeBrace =>
      if needValue then fail "missing inline table opening" [.literal "\x7b"] (Span.at t.span.start)
      else fail "missing comma between array elements" [.literal ","] (Span.at t.span.start)
    | _ =>
      if needValue then
        let item ← value fuel depth
        arrayItems fuel depth openTok false (item :: items)
      else fail "missing comma between array elements" [.literal ","] (Span.at t.span.start)

/-- An inline table after its opening brace `openTok`. -/
def inlineTable (fuel depth : Nat) (openTok : Token) : ShapeReader Node := do
  if depth + 1 > maxNesting then
    fail "cannot recurse further; max recursion depth met" [] openTok.span
  else inlineEntries fuel (depth + 1) openTok .key [] []

/-- The entries of an inline table up to its closing brace: `key` is the key of the entry
being read. -/
def inlineEntries : Nat → Nat → Token → Awaiting → List Piece → List (List Piece × Node) →
    ShapeReader Node
  | 0, _, openTok, _, _, entries => pure (.inlineTable openTok.span entries.reverse)
  | fuel + 1, depth, openTok, state, key, entries => do
    let t ← peek
    let close (entries : List (List Piece × Node)) : ShapeReader Node := do
      take
      pure (.inlineTable ⟨openTok.span.start, t.span.stop⟩ entries.reverse)
    match t.kind with
    | .blank => take; inlineEntries fuel depth openTok state key entries
    | .comment | .newline => take; check t; inlineEntries fuel depth openTok state key entries
    | .eof => fail "unclosed inline table" [.literal "\x7d"] (Span.at (← get).last.stop)
    | .comma =>
      match state with
      | .key => fail "extra comma in inline table" state.expected (Span.at t.span.start)
      | .equals => fail "key with no value" state.expected (Span.at t.span.start)
      | .value =>
        take; inlineEntries fuel depth openTok .key [] ((key, .scalar (t.gap .literal)) :: entries)
      | .comma => take; inlineEntries fuel depth openTok .key [] entries
    | .equals =>
      match state with
      | .key => take; inlineEntries fuel depth openTok .value [t.gap .bare] entries
      | .equals => take; inlineEntries fuel depth openTok .value key entries
      | _ =>
        fail "extra assignment between key-value pairs" state.expected (Span.at t.span.start)
    | .closeBrace =>
      match state with
      | .key | .comma => close entries
      | .equals => fail "key with no value" state.expected (Span.at t.span.start)
      | .value => close ((key, .scalar (t.gap .literal)) :: entries)
    | .openBracket | .openBrace | .closeBracket =>
      match state with
      | .value =>
        let v ← value fuel depth
        inlineEntries fuel depth openTok .comma [] ((key, v) :: entries)
      | .equals => fail "key with no value" state.expected (Span.at t.span.start)
      | _ =>
        fail "missing key for inline table element" state.expected (Span.at t.span.start)
    | _ =>
      match state with
      | .key =>
        if t.kind == .dot then
          let (keys, _) ← keyParts fuel false [t.gap .bare]
          inlineEntries fuel depth openTok .equals keys entries
        else
          take
          let (keys, _) ← keyParts fuel false [t.piece]
          inlineEntries fuel depth openTok .equals keys entries
      | .equals => fail "key with no value" state.expected (Span.at t.span.start)
      | .value =>
        let v ← value fuel depth
        inlineEntries fuel depth openTok .comma [] ((key, v) :: entries)
      | .comma =>
        fail "missing comma between key-value pairs" state.expected (Span.at t.span.start)

end

/-- The rest of a key-value pair after its key: `=`, the value, and the end of the line. -/
def assignment (fuel : Nat) (keys : List Piece) : ShapeReader Expression := do
  skipBlanks fuel
  let t ← peek
  if t.kind != .equals then fail "key with no value" [.literal "="] (Span.at t.span.start)
  else
    take
    skipBlanks fuel
    let v ← value fuel 0
    lineEnd fuel
    pure (.keyValue keys v)

/-- A table header after its first bracket. -/
def header (fuel : Nat) : ShapeReader Expression := do
  let isArray := (← peek).kind == .openBracket
  if isArray then take
  skipBlanks fuel
  let (keys, whole) ← keyParts fuel true []
  skipBlanks fuel
  let e := if isArray then Expression.arrayTable keys else .table keys
  let t ← peek
  if t.kind == .closeBracket then
    take
    if isArray then
      if (← peek).kind == .closeBracket then take; lineEnd fuel; pure e
      else fail "unclosed array table" [.literal "]"] (Span.at t.span.stop)
    else lineEnd fuel; pure e
  else if whole then
    let last := (← get).last
    if isArray then fail "unclosed array table" [.literal "]]"] (Span.at last.stop)
    else fail "unclosed table" [.literal "]"] (Span.at last.stop)
  else skipLine fuel; pure e

/-- The expressions of a document from the reader on, latest first in `acc`. -/
def expressions : Nat → List Expression → ShapeReader (List Expression)
  | 0, acc => pure acc.reverse
  | fuel + 1, acc => do
    let t ← peek
    match t.kind with
    | .eof => pure acc.reverse
    | .blank => take; expressions fuel acc
    | .comment | .newline => take; check t; expressions fuel acc
    | .openBracket => take; let e ← header fuel; expressions fuel (e :: acc)
    | .closeBracket => fail "missing table open" [.literal "["] (Span.at t.span.start)
    | .comma | .openBrace | .closeBrace =>
      fail "invalid key-value pair" [.description "key"] (Span.at t.span.start)
    | .equals => let e ← assignment fuel [t.gap .bare]; expressions fuel (e :: acc)
    | .dot =>
      let (keys, _) ← keyParts fuel false [t.gap .bare]
      let e ← assignment fuel keys
      expressions fuel (e :: acc)
    | _ =>
      take
      let (keys, _) ← keyParts fuel false [t.piece]
      let e ← assignment fuel keys
      expressions fuel (e :: acc)

end ShapeReader

/-- **The expressions of a document**, or the first error in their arrangement. -/
def Expression.readAll (tokens : List Token) : Except Error (List Expression) :=
  (ShapeReader.expressions (tokens.length + 1) []).run' ⟨tokens, Span.at 0⟩

end PinAudit.Toml
