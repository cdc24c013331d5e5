import PinAudit.Toml.Value

/-!
# TOML tokens

The first step of reading a TOML document cuts its text into tokens, each with its characters
and its byte span. Cutting never fails: what is malformed is left to the later steps, which know
what they expected there.

- The punctuation `.`, `=`, `,`, `[`, `]`, `{`, `}` is a token of one character.
- A run of spaces and tabs is a blank; `#` starts a comment that runs up to a carriage return or
  a line feed; a line feed, a carriage return with a line feed, or a lone carriage return is a
  newline.
- A string runs from its quote to its closing quote. A basic (`"`) or literal (`'`) string
  stops before a line feed; in a basic string a backslash takes a following backslash or quote
  with it. A multi-line string (`"""`, `'''`) runs to the next three quotes (in a basic one, not
  counting a quote taken by a backslash) and takes up to two more quotes after them. A string
  that is not closed runs to the end of the text.
- Anything else is an *atom*, up to the next punctuation, blank, `#` or line break: bare keys,
  numbers, booleans, dates and times (a `.` splits an atom; the reader joins the pieces of a
  value again). A date `YYYY-MM-DD` followed by a space and `HH:` runs on through the space.
- A byte order mark at the start is skipped; the last token is the end of the text.

Main definitions: `Toml.Token`, `Toml.Token.scan`.
-/

namespace PinAudit.Toml

/-- What a token is. -/
inductive TokenKind where
  | dot
  | equals
  | comma
  | openBracket
  | closeBracket
  | openBrace
  | closeBrace
  | blank
  | comment
  | newline
  | literal
  | basic
  | multiLiteral
  | multiBasic
  | atom
  | eof
  deriving DecidableEq, Repr

/-- **A token**: its kind, its characters and its byte span. -/
structure Token where
  kind : TokenKind
  text : List Char
  span : Span
  deriving Repr

/-- The number of bytes of some characters in UTF-8. -/
def byteLength (cs : List Char) : Nat := cs.foldl (fun n c => n + c.utf8Size) 0

/-- The byte offset of the first character that fails a test, counting from `pos`. -/
def firstFailing (ok : Char → Bool) : List Char → Nat → Option Nat
  | [], _ => none
  | c :: cs, pos => if ok c then firstFailing ok cs (pos + c.utf8Size) else some pos

namespace Token

/-- A character that ends an atom. -/
def isDelimiter (c : Char) : Bool :=
  c == '.' || c == '=' || c == ',' || c == '[' || c == ']' || c == '{' || c == '}' ||
    c == ' ' || c == '\t' || c == '#' || c == '\r' || c == '\n'

/-- A space or a tab. -/
def isBlank (c : Char) : Bool := c == ' ' || c == '\t'

/-- The characters of a basic string after its opening quote: up to and with the closing
quote, or up to a line feed or the end. -/
def basicRest : List Char → Nat
  | [] => 0
  | '"' :: _ => 1
  | '\n' :: _ => 0
  | '\\' :: '\\' :: more => 2 + basicRest more
  | '\\' :: '"' :: more => 2 + basicRest more
  | _ :: rest => 1 + basicRest rest

/-- Up to two more quotes `q` after a closing triple. -/
def extraQuotes (q : Char) : List Char → Nat
  | a :: b :: _ => if a == q then (if b == q then 2 else 1) else 0
  | [a] => if a == q then 1 else 0
  | [] => 0

/-- The characters of a multi-line basic string after its opening quotes. -/
def multiBasicRest : List Char → Nat
  | [] => 0
  | '"' :: '"' :: '"' :: rest => 3 + extraQuotes '"' rest
  | '\\' :: '\\' :: more => 2 + multiBasicRest more
  | '\\' :: '"' :: more => 2 + multiBasicRest more
  | _ :: rest => 1 + multiBasicRest rest

/-- The characters of a multi-line literal string after its opening quotes. -/
def multiLiteralRest : List Char → Nat
  | [] => 0
  | '\'' :: '\'' :: '\'' :: rest => 3 + extraQuotes '\'' rest
  | _ :: rest => 1 + multiLiteralRest rest

/-- The characters of a literal string after its opening quote. -/
def literalRest : List Char → Nat
  | [] => 0
  | '\'' :: _ => 1
  | '\n' :: _ => 0
  | _ :: rest => 1 + literalRest rest

/-- Whether some characters are a date `YYYY-MM-DD`. -/
def isDate (cs : List Char) : Bool :=
  cs.length == 10 &&
    (cs.zip "dddd-dd-dd".toList).all fun (c, s) => if s == 'd' then c.isDigit else c == s

/-- The characters of an atom; a date followed by a space and `HH:` goes on through the space. -/
def atomLength (cs : List Char) : Nat :=
  let word := cs.takeWhile (!isDelimiter ·)
  match cs.drop word.length with
  | ' ' :: a :: b :: ':' :: _ =>
    if isDate word && a.isDigit && b.isDigit then
      word.length + 1 + ((cs.drop (word.length + 1)).takeWhile (!isDelimiter ·)).length
    else word.length
  | _ => word.length

/-- **The kind and the length in characters of the token** at the start of a text. -/
def next : List Char → TokenKind × Nat
  | '.' :: _ => (.dot, 1)
  | '=' :: _ => (.equals, 1)
  | ',' :: _ => (.comma, 1)
  | '[' :: _ => (.openBracket, 1)
  | ']' :: _ => (.closeBracket, 1)
  | '{' :: _ => (.openBrace, 1)
  | '}' :: _ => (.closeBrace, 1)
  | ' ' :: rest => (.blank, 1 + (rest.takeWhile isBlank).length)
  | '\t' :: rest => (.blank, 1 + (rest.takeWhile isBlank).length)
  | '#' :: rest => (.comment, 1 + (rest.takeWhile fun c => c != '\r' && c != '\n').length)
  | '\r' :: '\n' :: _ => (.newline, 2)
  | '\r' :: _ => (.newline, 1)
  | '\n' :: _ => (.newline, 1)
  | '\'' :: '\'' :: '\'' :: rest => (.multiLiteral, 3 + multiLiteralRest rest)
  | '\'' :: rest => (.literal, 1 + literalRest rest)
  | '"' :: '"' :: '"' :: rest => (.multiBasic, 3 + multiBasicRest rest)
  | '"' :: rest => (.basic, 1 + basicRest rest)
  | cs => (.atom, atomLength cs)

/-- The tokens of a text from byte offset `pos`; each token takes at least one character, so
`fuel` at the text's length is enough. -/
def scanFrom : Nat → List Char → Nat → List Token
  | 0, _, pos => [⟨.eof, [], Span.at pos⟩]
  | _, [], pos => [⟨.eof, [], Span.at pos⟩]
  | fuel + 1, c :: cs, pos =>
    let (kind, n) := next (c :: cs)
    let text := (c :: cs).take (max n 1)
    let stop := pos + byteLength text
    ⟨kind, text, ⟨pos, stop⟩⟩ :: scanFrom fuel ((c :: cs).drop (max n 1)) stop

/-- **The tokens of a text**, ending with the end of the text. -/
def scan (text : String) : List Token :=
  match text.toList with
  | '\uFEFF' :: rest => scanFrom (rest.length + 1) rest 3
  | cs => scanFrom (cs.length + 1) cs 0

end Token

end PinAudit.Toml
