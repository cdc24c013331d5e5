import PinAudit.Json.Parse
import PinAudit.Json.Mismatch
import PinAudit.Decimal.Shortest

/-!
# Reading typed values from JSON text

Readers for values of a known type, straight from the text, for formats whose errors name the
place in the text where a value did not fit.

- A value of the wrong kind is read anyway, when it is a scalar, so that the error can describe
  it (`invalid type: integer `5`, expected a string`); the error is placed after it. A bracket
  is described (`sequence`, `map`) without being read.
- A field that is not wanted is skipped with lighter checks than a full read: its strings'
  escapes are checked for shape only, and its numbers are not converted.
- A struct may be written as an object or, with its fields in order, as an array. When the
  fields do not fit (one missing, one repeated, too few items) the error is placed after the
  closing bracket, if that bracket follows at once, else where reading stopped.

Main definitions: `refuse`, `readString`, `readStruct`, `skipValue`.
-/

namespace PinAudit.Json

/-- What a number that does not fit is described as. -/
def Parsed.unexpected : Parsed → Unexpected
  | .nat n => .unsigned n
  | .neg i => .signed i
  | .double b => .float ((Double.scientific b).getD "")

/-- **A value of the wrong kind** at the cursor: a scalar is read for its description, a
bracket is not, and the error `invalid type` is placed where reading stopped. -/
def refuse {α : Type} (expected : String) : Reader α := do
  let found : Unexpected ← match ← peek with
    | some 'n' => bump; literal ['u', 'l', 'l']; pure .null
    | some 't' => bump; literal ['r', 'u', 'e']; pure (.bool true)
    | some 'f' => bump; literal ['a', 'l', 's', 'e']; pure (.bool false)
    | some '-' => bump; pure (← number false).unexpected
    | some '"' => bump; pure (.str (← string))
    | some '[' => pure .seq
    | some '{' => pure .map
    | some c =>
      if c.isDigit then pure (← number true).unexpected
      else failNext (.malformed .expectedValue)
    | none => failNext (.malformed .expectedValue)
  failHere (.custom (invalidType found expected))

/-- **A string.** -/
def readString : Reader String := do
  match ← skipWs with
  | none => failNext (.malformed .eofValue)
  | some '"' => bump; string
  | some _ => refuse "a string"

/-- A string or `null`. -/
def readOptString : Reader (Option String) := do
  match ← skipWs with
  | some 'n' => bump; literal ['u', 'l', 'l']; pure none
  | _ => some <$> readString

/-- **A boolean.** -/
def readBool : Reader Bool := do
  match ← skipWs with
  | none => failNext (.malformed .eofValue)
  | some 't' => bump; literal ['r', 'u', 'e']; pure true
  | some 'f' => bump; literal ['a', 'l', 's', 'e']; pure false
  | some _ => refuse "a boolean"

/-- A closing bracket that may follow a struct whose fields did not fit: whitespace is skipped
and the bracket read if it stands there; after an array, a `,` is read with the whitespace
after it. Nothing here fails. -/
def settle (close : Char) : Reader Unit := do
  match ← skipWs with
  | some c =>
    if c == close then bump
    else if c == ',' && close == ']' then bump; let _ ← skipWs
  | none => pure ()

/-- **A struct**, as an array (`seqForm`) or an object (`mapForm`), each reading its fields
after the opening bracket and answering the value or the reason its fields do not fit. -/
def readStruct {α : Type} (expected : String) (seqForm mapForm : Reader (Except String α)) :
    Reader α := do
  match ← skipWs with
  | none => failNext (.malformed .eofValue)
  | some '[' =>
    bump
    match ← seqForm with
    | .ok v => closeArray; pure v
    | .error m => settle ']'; failHere (.custom m)
  | some '{' =>
    bump
    match ← mapForm with
    | .ok v => closeObject; pure v
    | .error m => settle '}'; failHere (.custom m)
  | some _ => refuse expected

/-- Skip the key and colon of a field while skipping an object. -/
def skipKey : Reader Unit := do
  match ← skipWs with
  | some '"' => bump; skipString
  | some _ => failNext (.malformed .keyMustBeString)
  | none => failNext (.malformed .eofObject)
  match ← skipWs with
  | some ':' => bump
  | some _ => failNext (.malformed .expectedColon)
  | none => failNext (.malformed .eofObject)

/-- The error for a missing `,` or closing bracket while skipping. -/
def commaOrEnd (close : Char) : Malformed :=
  if close == ']' then .expectedListCommaOrEnd else .expectedObjectCommaOrEnd

/-- The error for the end of text while skipping a bracket. -/
def eofIn (close : Char) : Malformed :=
  if close == ']' then .eofList else .eofObject

mutual

/-- **Skip a value.** A `,` right after an opening bracket, or before a closing one, is taken
for a missing value. -/
def skipValue : Nat → Reader Unit
  | 0 => failNext (.malformed .recursionLimit)
  | fuel + 1 => do
    match ← skipWs with
    | none => failNext (.malformed .eofValue)
    | some 'n' => bump; literal ['u', 'l', 'l']
    | some 't' => bump; literal ['r', 'u', 'e']
    | some 'f' => bump; literal ['a', 'l', 's', 'e']
    | some '-' => bump; skipNumber
    | some '"' => bump; skipString
    | some '[' => bump; skipItems fuel ']' false
    | some '{' => bump; skipItems fuel '}' false
    | some c => if c.isDigit then skipNumber else failNext (.malformed .expectedValue)

/-- Skip the items of an array or the fields of an object up to the bracket `close`, read;
`more` once an item has been skipped. -/
def skipItems : Nat → Char → Bool → Reader Unit
  | 0, _, _ => failNext (.malformed .recursionLimit)
  | fuel + 1, close, more => do
    match ← skipWs with
    | none => failNext (.malformed (eofIn close))
    | some c =>
      if c == close then bump
      else if c == ',' && more then
        bump
        if close == '}' then skipKey
        skipValue fuel
        skipItems fuel close true
      else if more then failNext (.malformed (commaOrEnd close))
      else
        if close == '}' then skipKey
        skipValue fuel
        skipItems fuel close true

end

/-- The items of an array up to its closing bracket (not read), each read by `item`. -/
def readItems {α : Type} (item : Reader α) : Nat → Bool → List α → Reader (List α)
  | 0, _, acc => pure acc.reverse
  | fuel + 1, first, acc => do
    if ← nextItem first then
      let v ← item
      readItems item fuel false (v :: acc)
    else pure acc.reverse

/-- The next item of a struct written as an array, if one follows. -/
def nextField {α : Type} (first : Bool) (item : Reader α) : Reader (Option α) := do
  if ← nextItem first then pure (some (← item)) else pure none

end PinAudit.Json
