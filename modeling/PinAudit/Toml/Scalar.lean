import PinAudit.Toml.Strings
import PinAudit.Toml.Datetime
import PinAudit.Decimal.Nearest

/-!
# TOML scalars

Decoding a scalar value: a string, or a bare word that is a boolean, an integer, a float or a
date-time. The first character decides what a bare word is meant to be, and the checks of that
kind then say what is wrong with it.

- `true`, `false`, `inf` and `nan` are spelled exactly (`inf` and `nan` may have a sign).
- An integer is decimal with an optional sign and no leading zero, or `0x`, `0o`, `0b` with
  lower-case prefix, no sign and digits of its base.
- A float has a decimal mantissa without leading zero, then a fraction, an exponent or both;
  fraction and exponent have at least one digit.
- In numbers an underscore stands between two digits.
- Digits followed by `-` or `:` are a date-time, checked as `Toml.checkDatetime` says.
- Anything else must be quoted.

The value of an integer is its number (none when a base prefix has no digits after it), and the
value of a float the nearest double (none when that is infinite but the text is not `inf`).

Main definitions: `Toml.Bare`, `Toml.Piece.decodeBare`, `Toml.Piece.decodeValue`.
-/

namespace PinAudit.Toml

/-- **What a bare scalar is**: its kind and the text that gives its value (underscores dropped;
an integer with a base prefix keeps only its digits). -/
inductive Bare where
  | boolean (b : Bool)
  | integer (digits : List Char) (base : Nat)
  | float (text : List Char)
  | datetime (text : List Char)
  deriving DecidableEq, Repr

/-- A decoding that may fail. -/
abbrev Decoding := Except Error

/-- Fail, saying what was expected. -/
def refuseWith {α : Type} (description : String) (expected : List Expected) (span : Span) :
    Decoding α :=
  .error (Error.expecting description expected span)

/-- A digit of a base. -/
def isDigitIn (base : Nat) (c : Char) : Bool :=
  match base with
  | 16 => isHexDigit c
  | 8 => '0' ≤ c && c ≤ '7'
  | 2 => c == '0' || c == '1'
  | _ => c.isDigit

/-- The error for a character that is not a digit of a base. -/
def notADigitIn (base : Nat) : String :=
  match base with
  | 16 => "invalid hexadecimal number"
  | 8 => "invalid octal number"
  | 2 => "invalid binary number"
  | _ => "invalid integer number"

/-- The text without underscores. -/
def withoutUnderscores (cs : List Char) : List Char := cs.filter (· != '_')

/-- A bare word that is none of the kinds: it must be quoted. A word ending in quotes has lost
its opening quotes. -/
def unquotedWord (raw : List Char) (span : Span) : Decoding Bare :=
  let endsWith (s : String) := s.toList.reverse.isPrefixOf raw.reverse
  if endsWith "'''" then refuseWith "missing opening quote" [.literal "'''"] (Span.at span.start)
  else if endsWith "\"\"\"" then
    refuseWith "missing opening quote" [.literal "\"\"\""] (Span.at span.start)
  else if endsWith "'" then refuseWith "missing opening quote" [.literal "'"] (Span.at span.start)
  else if endsWith "\"" then refuseWith "missing opening quote" [.literal "\""] (Span.at span.start)
  else refuseWith "string values must be quoted" [.description "literal string"] span

/-- A word that must be spelled exactly. -/
def spelled (raw : List Char) (span : Span) (word : String) (kind : Bare) (description : String) :
    Decoding Bare :=
  if raw == word.toList then .ok kind
  else if raw.contains ' ' then unquotedWord raw span
  else refuseWith description [.literal word] span

/-- A run of digits and underscores at `pos` with at least one digit, and no leading zero
unless `zeroAllowed`; answers the rest and its offset. -/
def digitRun (cs : List Char) (pos : Nat) (zeroAllowed : Bool) (description : String) :
    Decoding (List Char × Nat) :=
  let run := cs.takeWhile fun c => c.isDigit || c == '_'
  let count := (run.filter Char.isDigit).length
  if count == 0 then refuseWith description [.description "digits"] (Span.at pos)
  else if count ≥ 2 && run.head? == some '0' && !zeroAllowed then
    refuseWith "unexpected leading zero" [] ⟨pos, pos + 1⟩
  else .ok (cs.drop run.length, pos + run.length)

/-- **Check the shape of a float** at `pos`: mantissa, optional fraction, optional exponent,
and nothing after them before `stop`. -/
def checkFloatShape (cs : List Char) (pos stop : Nat) : Decoding Unit := do
  let (cs, pos) ← digitRun cs pos false "invalid mantissa"
  let (cs, pos) ← match cs with
    | '.' :: rest => digitRun rest (pos + 1) true "invalid fraction"
    | _ => pure (cs, pos)
  let (cs, pos) ← match cs with
    | e :: rest =>
      if e == 'e' || e == 'E' then
        match rest with
        | s :: more =>
          if s == '+' || s == '-' then digitRun more (pos + 2) true "invalid exponent"
          else digitRun rest (pos + 1) true "invalid exponent"
        | [] => digitRun rest (pos + 1) true "invalid exponent"
      else pure (cs, pos)
    | [] => pure (cs, pos)
  if cs.isEmpty then pure () else refuseWith "invalid float" [] ⟨pos, stop⟩

/-- Check that the digits of an integer at `pos` are digits of its base or underscores. -/
def checkDigits (cs : List Char) (pos base : Nat) : Decoding Unit :=
  match cs with
  | c :: _ =>
    if c == '+' || c == '-' then refuseWith "unexpected sign" [] ⟨pos, pos + 1⟩
    else
      match firstFailing (fun d => isDigitIn base d || d == '_') cs pos with
      | some bad => .error (Error.about (notADigitIn base) (Span.at bad))
      | none => .ok ()
  | [] => .ok ()

/-- **Check that every underscore stands between two digits**; `before` is the character
before the text. -/
def checkUnderscores (isDigit : Char → Bool) : Option Char → List Char → Nat → Decoding Unit
  | _, [], _ => .ok ()
  | before, c :: cs, pos =>
    if c == '_' then
      if before.any isDigit && cs.head?.any isDigit then checkUnderscores isDigit (some c) cs (pos + 1)
      else refuseWith "`_` may only go between digits" [] ⟨pos, pos + 1⟩
    else checkUnderscores isDigit (some c) cs (pos + c.utf8Size)

/-- A float whose text from `value` at `pos` is checked; the whole word gives its value. -/
def floatWord (raw : List Char) (span : Span) (value : List Char) (pos : Nat) : Decoding Bare := do
  checkFloatShape value pos span.stop
  checkUnderscores Char.isDigit none raw span.start
  pure (.float (withoutUnderscores raw))

/-- A word starting with a decimal digit or an underscore at `value` (after any sign): an
integer, a float or a date-time. -/
def decimalWord (raw : List Char) (span : Span) (value : List Char) (pos : Nat) : Decoding Bare :=
  let digits := value.takeWhile Char.isDigit
  let rest := value.drop digits.length
  let leadingZero : Decoding Unit :=
    if value.head? == some '0' then refuseWith "unexpected leading zero" [] ⟨pos, pos + 1⟩
    else .ok ()
  let integer : Decoding Bare := do
    checkUnderscores Char.isDigit none raw span.start
    pure (.integer (withoutUnderscores raw) 10)
  match rest with
  | [] => do leadingZero; integer
  | r :: _ =>
    if r == '-' || r == ':' then .ok (.datetime raw)
    else if rest.contains ' ' then unquotedWord raw span
    else if rest.any fun c => c == '.' || c == 'e' || c == 'E' then floatWord raw span value pos
    else if r == '_' then do
      leadingZero
      checkDigits value pos 10
      integer
    else unquotedWord raw span

/-- A word starting with `0` at `value`: an integer with a base prefix, or a decimal word. -/
def zeroWord (raw : List Char) (span : Span) (value : List Char) (pos : Nat) (signed : Bool) :
    Decoding Bare :=
  match value with
  | ['0'] => .ok (.integer raw 10)
  | '0' :: r :: digits =>
    let prefixed (base : Nat) (lower : Char) : Decoding Bare := do
      if signed then refuseWith "integers with a radix cannot be signed" [] ⟨span.start, span.start + 1⟩
      if r != lower then
        refuseWith "radix must be lowercase" [.literal (String.ofList ['0', lower])] ⟨pos, pos + 2⟩
      checkDigits digits (pos + 2) base
      checkUnderscores (isDigitIn base) none digits (pos + 2)
      pure (.integer (withoutUnderscores digits) base)
    if r == 'x' || r == 'X' then prefixed 16 'x'
    else if r == 'o' || r == 'O' then prefixed 8 'o'
    else if r == 'b' || r == 'B' then prefixed 2 'b'
    else if r == 'd' || r == 'D' then
      if signed then refuseWith "integers with a radix cannot be signed" [] ⟨span.start, span.start + 1⟩
      else refuseWith "redundant integer number prefix" [] ⟨pos, pos + 2⟩
    else decimalWord raw span value pos
  | _ => decimalWord raw span value pos

/-- A word after its sign, the rest `value` at `pos`. -/
def signedWord (raw : List Char) (span : Span) (value : List Char) (pos : Nat) : Decoding Bare :=
  match value with
  | [] => unquotedWord raw span
  | c :: _ =>
    if c == '+' || c == '-' then refuseWith "redundant numeric sign" [] ⟨pos, pos + 1⟩
    else if c == '_' || ('1' ≤ c && c ≤ '9') then decimalWord raw span value pos
    else if c == '0' then zeroWord raw span value pos true
    else if c == '.' then floatWord raw span value pos
    else if c == 'i' || c == 'I' then
      if value == "inf".toList then .ok (.float raw)
      else refuseWith "invalid float" [.literal "inf"] ⟨pos, span.stop⟩
    else if c == 'n' || c == 'N' then
      if value == "nan".toList then .ok (.float raw)
      else refuseWith "invalid float" [.literal "nan"] ⟨pos, span.stop⟩
    else unquotedWord raw span

namespace Piece

/-- **What a bare piece is**, or what is wrong with it. -/
def decodeBare (p : Piece) : Decoding Bare :=
  let raw := p.text
  let span := p.span
  match raw with
  | [] => unquotedWord raw span
  | c :: rest =>
    if c == '+' || c == '-' then signedWord raw span rest (span.start + 1)
    else if c == '_' || ('1' ≤ c && c ≤ '9') then decimalWord raw span raw span.start
    else if c == '0' then zeroWord raw span raw span.start false
    else if c == '.' then floatWord raw span raw span.start
    else if c == 't' || c == 'T' then spelled raw span "true" (.boolean true) "invalid boolean"
    else if c == 'f' || c == 'F' then spelled raw span "false" (.boolean false) "invalid boolean"
    else if c == 'i' || c == 'I' then spelled raw span "inf" (.float raw) "invalid float"
    else if c == 'n' || c == 'N' then spelled raw span "nan" (.float raw) "invalid float"
    else unquotedWord raw span

end Piece

/-- The number of an integer's digits in its base, with its sign; none without digits. -/
def integerValue (digits : List Char) (base : Nat) : Option Int :=
  let (negative, body) : Bool × List Char := match digits with
    | '-' :: rest => (true, rest)
    | '+' :: rest => (false, rest)
    | rest => (false, rest)
  if body.isEmpty then none
  else
    let n : Int := digitsIn base body
    some (if negative then -n else n)

/-- The double of a float's text; none when it is infinite but not written `inf`. -/
def floatValue (text : List Char) : Option UInt64 :=
  let (negative, body) : Bool × List Char := match text with
    | '-' :: rest => (true, rest)
    | '+' :: rest => (false, rest)
    | rest => (false, rest)
  let signed (bits : UInt64) := if negative then Double.negate bits else bits
  if body == "inf".toList then some (signed Double.infinityBits)
  else if body == "nan".toList then some (signed Double.notANumberBits)
  else
    let whole := body.takeWhile Char.isDigit
    let rest := body.drop whole.length
    let (fraction, rest) : List Char × List Char := match rest with
      | '.' :: more => (more.takeWhile Char.isDigit, more.dropWhile Char.isDigit)
      | _ => ([], rest)
    let exponent : Int := match rest with
      | _ :: '-' :: ds => -(digitsIn 10 ds : Int)
      | _ :: '+' :: ds => digitsIn 10 ds
      | _ :: ds => digitsIn 10 ds
      | [] => 0
    let bits := Double.nearest negative (digitsIn 10 (whole ++ fraction)) (exponent - fraction.length)
    if Double.isFinite bits then some bits else none

namespace Piece

/-- **The value of a scalar piece.** -/
def decodeValue (p : Piece) : Decoding Value :=
  match p.stringText with
  | some text => Value.str <$> text
  | none => do
    match ← p.decodeBare with
    | .boolean b => pure (.boolean b)
    | .integer digits base => pure (.integer (integerValue digits base))
    | .float text => pure (.float (floatValue text))
    | .datetime text =>
      match checkDatetime text with
      | .ok () => pure (.datetime (String.ofList text))
      | .error problem => .error (Error.about problem.message p.span)

end Piece

end PinAudit.Toml
