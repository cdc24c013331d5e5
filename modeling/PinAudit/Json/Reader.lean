import PinAudit.Json.Value
import PinAudit.Decimal.Shortest

/-!
# Reading JSON text

The pieces every JSON reader of this library is built from: a cursor over the text, the
syntax errors with the position they are reported at, and readers for whitespace, literals,
strings and numbers, and for skipping a whole value.

Positions count lines from 1 and columns in bytes of UTF-8. An error reported *at the cursor*
points at the last character read (column 0 before any on its line); one reported *at the
next character* points one byte further, or at column 0 of the next line when that character
is a line feed. Which of the two an error uses is part of the format, and stated with each
reader.
-/

namespace PinAudit.Json

/-- Malformations of JSON text. -/
inductive Malformed where
  | eofList
  | eofObject
  | eofString
  | eofValue
  | expectedColon
  | expectedListCommaOrEnd
  | expectedObjectCommaOrEnd
  | expectedIdent
  | expectedValue
  | invalidEscape
  | invalidNumber
  | numberOutOfRange
  | controlCharacter
  | keyMustBeString
  | loneSurrogate
  | trailingComma
  | trailingCharacters
  | unexpectedEndOfHexEscape
  | recursionLimit
  deriving DecidableEq, Repr

/-- The text of a malformation. -/
def Malformed.text : Malformed → String
  | .eofList => "EOF while parsing a list"
  | .eofObject => "EOF while parsing an object"
  | .eofString => "EOF while parsing a string"
  | .eofValue => "EOF while parsing a value"
  | .expectedColon => "expected `:`"
  | .expectedListCommaOrEnd => "expected `,` or `]`"
  | .expectedObjectCommaOrEnd => "expected `,` or `\x7d`"
  | .expectedIdent => "expected ident"
  | .expectedValue => "expected value"
  | .invalidEscape => "invalid escape"
  | .invalidNumber => "invalid number"
  | .numberOutOfRange => "number out of range"
  | .controlCharacter => "control character (\\u0000-\\u001F) found while parsing a string"
  | .keyMustBeString => "key must be a string"
  | .loneSurrogate => "lone leading surrogate in hex escape"
  | .trailingComma => "trailing comma"
  | .trailingCharacters => "trailing characters"
  | .unexpectedEndOfHexEscape => "unexpected end of hex escape"
  | .recursionLimit => "recursion limit exceeded"

/-- What went wrong: a malformed text, or a message from the reader of a typed value. -/
inductive Problem where
  | malformed (s : Malformed)
  | custom (message : String)
  deriving DecidableEq, Repr

/-- A reading error with its position; line `0` means no position is known yet. -/
structure Error where
  problem : Problem
  line : Nat
  col : Nat
  deriving DecidableEq, Repr

/-- The error as it is printed: the problem, then ` at line L column C` when placed. -/
def Error.message (e : Error) : String :=
  let base := match e.problem with
    | .malformed s => s.text
    | .custom m => m
  if e.line == 0 then base
  else base ++ " at line " ++ toString e.line ++ " column " ++ toString e.col

/-- Where a reader stands in the text. -/
structure Cursor where
  rest : List Char
  line : Nat
  col : Nat
  deriving Repr

/-- A cursor at the start of a text. -/
def Cursor.start (text : String) : Cursor := ⟨text.toList, 1, 0⟩

/-- Line and column after reading character `c` at line `l`, column `k`. -/
def step (l k : Nat) (c : Char) : Nat × Nat :=
  if c == '\n' then (l + 1, 0) else (l, k + c.utf8Size)

/-- The cursor after reading its next character. -/
def Cursor.bump (cur : Cursor) : Cursor :=
  match cur.rest with
  | [] => cur
  | c :: cs => let (l, k) := step cur.line cur.col c; ⟨cs, l, k⟩

/-- The position one byte past the cursor. -/
def Cursor.nextPos (cur : Cursor) : Nat × Nat :=
  match cur.rest with
  | [] => (cur.line, cur.col)
  | c :: _ => if c == '\n' then (cur.line + 1, 0) else (cur.line, cur.col + 1)

/-- A reader: from a cursor, a value and the cursor after it, or an error. -/
abbrev Reader := StateT Cursor (Except Error)

/-- Fail at the cursor. -/
def failHere {α : Type} (p : Problem) : Reader α := do
  let cur ← get
  throw ⟨p, cur.line, cur.col⟩

/-- Fail one byte past the cursor. -/
def failNext {α : Type} (p : Problem) : Reader α := do
  let (l, k) := (← get).nextPos
  throw ⟨p, l, k⟩

/-- Place an error that has no position yet at the cursor. -/
def placeHere (e : Error) : Reader Error := do
  if e.line == 0 then
    let cur ← get
    pure { e with line := cur.line, col := cur.col }
  else pure e

/-- The next character, not read. -/
def peek : Reader (Option Char) := do
  pure (← get).rest.head?

/-- Read the next character. -/
def bump : Reader Unit := modify Cursor.bump

/-- JSON whitespace. -/
def isWs (c : Char) : Bool := c == ' ' || c == '\n' || c == '\t' || c == '\r'

/-- Skip whitespace from a list of characters at a position. -/
def skipWsFrom : List Char → Nat → Nat → Cursor
  | [], l, k => ⟨[], l, k⟩
  | c :: cs, l, k =>
    if isWs c then let (l', k') := step l k c; skipWsFrom cs l' k' else ⟨c :: cs, l, k⟩

/-- **Skip whitespace**, then look at the next character. -/
def skipWs : Reader (Option Char) := do
  let cur ← get
  let cur' := skipWsFrom cur.rest cur.line cur.col
  set cur'
  pure cur'.rest.head?

/-- Read the rest of a literal (`ull`, `rue`, `alse`) after its first letter. A wrong
character is read before the error, which is placed at its first byte; the end of text is an
error at the cursor. -/
def literal : List Char → Reader Unit
  | [] => pure ()
  | e :: es => do
    match ← peek with
    | none => failHere (.malformed .eofValue)
    | some c =>
      if c == e then bump; literal es
      else
        let cur ← get
        let (l, k) := if c == '\n' then (cur.line + 1, 0) else (cur.line, cur.col + 1)
        throw ⟨.malformed .expectedIdent, l, k⟩

/-- The value of a hexadecimal digit. -/
def hexValue (c : Char) : Option Nat :=
  if '0' ≤ c ∧ c ≤ '9' then some (c.toNat - 48)
  else if 'a' ≤ c ∧ c ≤ 'f' then some (c.toNat - 87)
  else if 'A' ≤ c ∧ c ≤ 'F' then some (c.toNat - 55)
  else none

/-- Advance a position over `n` bytes of the characters `cs`. -/
def advanceBytes : List Char → Nat → Nat → Nat → Nat × Nat
  | [], _, l, k => (l, k)
  | _, 0, l, k => (l, k)
  | c :: cs, n + 1, l, k =>
    if c == '\n' then advanceBytes cs n (l + 1) 0
    else if c.utf8Size ≥ n + 1 then (l, k + n + 1)
    else advanceBytes cs (n + 1 - c.utf8Size) l (k + c.utf8Size)

/-- The byte length of a list of characters. -/
def byteLength (cs : List Char) : Nat := cs.foldl (fun n c => n + c.utf8Size) 0

/-- **Four hex digits** of a `\u` escape. Fewer than four bytes left is the end of the string
(placed at the end of the text); four bytes that are not all hex digits are an invalid escape
placed after them. -/
def hex4 : Reader Nat := do
  let cur ← get
  if byteLength (cur.rest.take 4) < 4 then
    let (l, k) := advanceBytes cur.rest (byteLength cur.rest) cur.line cur.col
    throw ⟨.malformed .eofString, l, k⟩
  else
    match cur.rest with
    | a :: b :: c :: d :: more =>
      match hexValue a, hexValue b, hexValue c, hexValue d with
      | some x, some y, some z, some w =>
        set (⟨more, cur.line, cur.col + 4⟩ : Cursor)
        pure (((x * 16 + y) * 16 + z) * 16 + w)
      | _, _, _, _ =>
        let (l, k) := advanceBytes cur.rest 4 cur.line cur.col
        throw ⟨.malformed .invalidEscape, l, k⟩
    | _ =>
      let (l, k) := advanceBytes cur.rest 4 cur.line cur.col
      throw ⟨.malformed .invalidEscape, l, k⟩

/-- The character for a `\u` escape that follows a leading surrogate `n₁`. -/
def trailSurrogate (n₁ : Nat) : Reader Char := do
  match ← peek with
  | none => failHere (.malformed .eofString)
  | some '\\' =>
    bump
    match ← peek with
    | none => failHere (.malformed .eofString)
    | some 'u' =>
      bump
      let n₂ ← hex4
      if n₂ < 0xDC00 || n₂ > 0xDFFF then failHere (.malformed .loneSurrogate)
      else pure (Char.ofNat ((((n₁ - 0xD800) * 1024) ||| (n₂ - 0xDC00)) + 0x10000))
    | some _ => failNext (.malformed .unexpectedEndOfHexEscape)
  | some _ => failNext (.malformed .unexpectedEndOfHexEscape)

/-- **An escape** after its backslash: the character it stands for. An unknown escape letter
is an error one byte past the cursor, where only its first byte has been read. -/
def escape : Reader Char := do
  match ← peek with
  | none => failHere (.malformed .eofString)
  | some c =>
    match c with
    | '"' => bump; pure '"'
    | '\\' => bump; pure '\\'
    | '/' => bump; pure '/'
    | 'b' => bump; pure (Char.ofNat 8)
    | 'f' => bump; pure (Char.ofNat 12)
    | 'n' => bump; pure '\n'
    | 'r' => bump; pure '\r'
    | 't' => bump; pure '\t'
    | 'u' => do
      bump
      let n ← hex4
      if 0xDC00 ≤ n && n ≤ 0xDFFF then failHere (.malformed .loneSurrogate)
      else if n < 0xD800 || n > 0xDBFF then pure (Char.ofNat n)
      else trailSurrogate n
    | _ => failNext (.malformed .invalidEscape)

/-- Read a string body up to its closing quote; `fuel` bounds the characters read. A control
character is read before its error. -/
def stringBody : Nat → List Char → Reader String
  | 0, acc => pure (String.ofList acc.reverse)
  | fuel + 1, acc => do
    match ← peek with
    | none => failHere (.malformed .eofString)
    | some '"' => bump; pure (String.ofList acc.reverse)
    | some '\\' => bump; let c ← escape; stringBody fuel (c :: acc)
    | some c =>
      if c.toNat < 0x20 then bump; failHere (.malformed .controlCharacter)
      else bump; stringBody fuel (c :: acc)

/-- **A string** after its opening quote. -/
def string : Reader String := do
  stringBody ((← get).rest.length + 1) []

/-- Skip a string body after its opening quote. Unlike `string`, a control character is an
error at the cursor, before it is read, and escapes are only checked for shape. -/
def skipStringBody : Nat → Reader Unit
  | 0 => pure ()
  | fuel + 1 => do
    match ← peek with
    | none => failHere (.malformed .eofString)
    | some '"' => bump
    | some '\\' =>
      bump
      match ← peek with
      | none => failHere (.malformed .eofString)
      | some c =>
        if c == 'u' then bump; let _ ← hex4; skipStringBody fuel
        else if c == '"' || c == '\\' || c == '/' || c == 'b' || c == 'f' || c == 'n' ||
            c == 'r' || c == 't' then bump; skipStringBody fuel
        else failNext (.malformed .invalidEscape)
    | some c =>
      if c.toNat < 0x20 then failHere (.malformed .controlCharacter)
      else bump; skipStringBody fuel

/-- Skip a string after its opening quote. -/
def skipString : Reader Unit := do
  skipStringBody ((← get).rest.length + 1)

/-! ## Numbers -/

/-- A number as read, before it becomes a value. -/
inductive Parsed where
  | nat (n : Nat)
  | neg (i : Int)
  | double (bits : UInt64)

/-- The number as a JSON number. -/
def Parsed.toNumber : Parsed → Number
  | .nat n => .nat n
  | .neg i => .neg i
  | .double b => .double b

/-- The largest 64-bit unsigned integer. -/
def maxU64 : Nat := Nat.pow 2 64 - 1

/-- The largest 32-bit signed integer. -/
def maxI32 : Int := (Nat.pow 2 31 : Int) - 1

/-- Clamp to the 32-bit signed range. -/
def clampI32 (i : Int) : Int := max (-(Nat.pow 2 31 : Int)) (min maxI32 i)

/-- `10^k` as a double, `k ≤ 308`. -/
def pow10 (k : Nat) : Float := Float.ofScientific 1 false k

/-- Scale by powers of ten, dividing by `1e308` while the exponent is below `-308`; `none` on
overflow. `fuel` bounds the divisions (a few suffice to reach zero). -/
def scale : Nat → Float → Int → Option Float
  | 0, f, _ => some f
  | fuel + 1, f, e =>
    if e.natAbs ≤ 308 then
      if e ≥ 0 then
        let g := f * pow10 e.toNat
        if g.isInf then none else some g
      else some (f / pow10 e.natAbs)
    else if f == 0 then some f
    else if e ≥ 0 then none
    else scale fuel (f / pow10 308) (e + 308)

/-- **A double from its parts**: `significand · 10^exponent`, the significand first rounded to
a double and then scaled by one correctly rounded power of ten. -/
def doubleOfParts (positive : Bool) (significand : Nat) (exponent : Int) : Reader Float := do
  match scale 8 (significand.toUInt64.toFloat) exponent with
  | none => failHere (.malformed .numberOutOfRange)
  | some f => pure (if positive then f else -f)

/-- Read digits while they come, without keeping them. -/
def skipDigits : Nat → Reader Unit
  | 0 => pure ()
  | fuel + 1 => do
    match ← peek with
    | some c => if c.isDigit then bump; skipDigits fuel else pure ()
    | none => pure ()

/-- Read digits into an exponent; `none` once it would pass the 32-bit range. -/
def exponentDigits : Nat → Int → Reader (Option Int)
  | 0, e => pure (some e)
  | fuel + 1, e => do
    match ← peek with
    | some c =>
      if c.isDigit then
        let d : Int := c.toNat - 48
        if e ≥ maxI32 / 10 && (e > maxI32 / 10 || d > maxI32 % 10) then
          bump; pure none
        else bump; exponentDigits fuel (e * 10 + d)
      else pure (some e)
    | none => pure (some e)

/-- The exponent part after `e` or `E` (not yet read). -/
def exponentPart (positive : Bool) (significand : Nat) (start : Int) : Reader Float := do
  bump
  let positiveExp ← do
    match ← peek with
    | some '+' => bump; pure true
    | some '-' => bump; pure false
    | _ => pure true
  match ← peek with
  | none => failHere (.malformed .eofValue)
  | some c =>
    if !c.isDigit then failNext (.malformed .invalidNumber)
    else
      bump
      let fuel := (← get).rest.length + 1
      match ← exponentDigits fuel (c.toNat - 48) with
      | none =>
        if significand != 0 && positiveExp then failHere (.malformed .numberOutOfRange)
        else
          skipDigits fuel
          pure (if positive then 0.0 else -0.0)
      | some e =>
        let final := clampI32 (if positiveExp then start + e else start - e)
        doubleOfParts positive significand final

/-- After an overflowing fraction digit: skip the digits left, then an exponent if any. -/
def fractionOverflow (positive : Bool) (significand : Nat) (exponent : Int) : Reader Float := do
  skipDigits ((← get).rest.length + 1)
  match ← peek with
  | some 'e' | some 'E' => exponentPart positive significand exponent
  | _ => doubleOfParts positive significand exponent

/-- Fraction digits after the point. -/
def fractionDigits (positive : Bool) : Nat → Nat → Int → Int → Reader Float
  | 0, s, _, e => doubleOfParts positive s e
  | fuel + 1, s, before, after => do
    match ← peek with
    | some c =>
      if c.isDigit then
        let d := c.toNat - 48
        if s ≥ maxU64 / 10 && (s > maxU64 / 10 || d > maxU64 % 10) then
          fractionOverflow positive s (before + after)
        else bump; fractionDigits positive fuel (s * 10 + d) before (after - 1)
      else finishFraction positive s before after
    | none => finishFraction positive s before after
where
  /-- At least one digit must follow the point. -/
  finishFraction (positive : Bool) (s : Nat) (before after : Int) : Reader Float := do
    if after == 0 then
      match ← peek with
      | some _ => failNext (.malformed .invalidNumber)
      | none => failNext (.malformed .eofValue)
    else
      match ← peek with
      | some 'e' | some 'E' => exponentPart positive s (before + after)
      | _ => doubleOfParts positive s (before + after)

/-- The fraction part after `.` (not yet read). -/
def fractionPart (positive : Bool) (significand : Nat) (before : Int) : Reader Float := do
  bump
  fractionDigits positive ((← get).rest.length + 1) significand before 0

/-- An integer too long for 64 bits: count the further digits into the exponent. -/
def longInteger (positive : Bool) (significand : Nat) : Nat → Int → Reader Float
  | 0, e => doubleOfParts positive significand e
  | fuel + 1, e => do
    match ← peek with
    | some c =>
      if c.isDigit then bump; longInteger positive significand fuel (e + 1)
      else if c == '.' then fractionPart positive significand e
      else if c == 'e' || c == 'E' then exponentPart positive significand e
      else doubleOfParts positive significand e
    | none => doubleOfParts positive significand e

/-- What follows the integer digits: a fraction, an exponent, or the end of the number. -/
def afterInteger (positive : Bool) (significand : Nat) : Reader Parsed := do
  match ← peek with
  | some '.' => pure (.double (← fractionPart positive significand 0).toBits)
  | some 'e' | some 'E' => pure (.double (← exponentPart positive significand 0).toBits)
  | _ =>
    if positive then pure (.nat significand)
    else if significand == 0 || significand > Nat.pow 2 63 then
      pure (.double (-(significand.toUInt64.toFloat)).toBits)
    else pure (.neg (-(significand : Int)))

/-- Integer digits after the first. -/
def integerDigits (positive : Bool) : Nat → Nat → Reader Parsed
  | 0, s => afterInteger positive s
  | fuel + 1, s => do
    match ← peek with
    | some c =>
      if c.isDigit then
        let d := c.toNat - 48
        if s ≥ maxU64 / 10 && (s > maxU64 / 10 || d > maxU64 % 10) then
          pure (.double (← longInteger positive s ((← get).rest.length + 1) 0).toBits)
        else bump; integerDigits positive fuel (s * 10 + d)
      else afterInteger positive s
    | none => afterInteger positive s

/-- **A number** (after its minus sign, if any). A first character that is no digit is an
error one byte past the cursor. -/
def number (positive : Bool) : Reader Parsed := do
  match ← peek with
  | none => failHere (.malformed .eofValue)
  | some c =>
    if c == '0' then
      bump
      match ← peek with
      | some d => if d.isDigit then failNext (.malformed .invalidNumber) else afterInteger positive 0
      | none => afterInteger positive 0
    else if c.isDigit then
      bump
      integerDigits positive ((← get).rest.length + 1) (c.toNat - 48)
    else failNext (.malformed .invalidNumber)

/-! ## Skipping numbers -/

/-- Skip an exponent after `e` or `E` (not yet read). A missing digit is an error at the
cursor. -/
def skipExponent : Reader Unit := do
  bump
  match ← peek with
  | some '+' | some '-' => bump
  | _ => pure ()
  match ← peek with
  | some c =>
    if c.isDigit then
      bump
      skipDigits ((← get).rest.length + 1)
    else failNext (.malformed .invalidNumber)
  | none => failHere (.malformed .invalidNumber)

/-- Skip a fraction after `.` (not yet read). -/
def skipFraction : Reader Unit := do
  bump
  match ← peek with
  | some c =>
    if c.isDigit then
      skipDigits ((← get).rest.length + 1)
      match ← peek with
      | some 'e' | some 'E' => skipExponent
      | _ => pure ()
    else failNext (.malformed .invalidNumber)
  | none => failNext (.malformed .invalidNumber)

/-- **Skip a number** (after its minus sign, if any). -/
def skipNumber : Reader Unit := do
  match ← peek with
  | none => failHere (.malformed .invalidNumber)
  | some c =>
    if c == '0' then
      bump
      match ← peek with
      | some d => if d.isDigit then failNext (.malformed .invalidNumber) else pure ()
      | none => pure ()
    else if c.isDigit then bump; skipDigits ((← get).rest.length + 1)
    else failNext (.malformed .invalidNumber)
  match ← peek with
  | some '.' => skipFraction
  | some 'e' | some 'E' => skipExponent
  | _ => pure ()

end PinAudit.Json
