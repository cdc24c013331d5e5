import PinAudit.Json.Reader

/-!
# Reading a JSON value

`Json.parse` reads a whole text as one value: whitespace around it is allowed, anything else
after it is an error. Arrays and objects nest at most 127 deep; the bracket that would open
the 128th level is refused. A repeated key keeps its last value.

The errors and their positions are the reader's (`Json.Reader`); this module adds the
grammar of arrays and objects:
- after an item, a `,` or the closing bracket must follow (else `expected ',' or ']'`);
- a `,` directly before the closing bracket is a trailing comma;
- an object key must be a string, and a `:` must follow it.
-/

namespace PinAudit.Json

/-- The value of a literal or scalar starting with `c` (the cursor before it). -/
def scalar (c : Char) : Reader Value := do
  match c with
  | 'n' => bump; literal ['u', 'l', 'l']; pure .null
  | 't' => bump; literal ['r', 'u', 'e']; pure (.bool true)
  | 'f' => bump; literal ['a', 'l', 's', 'e']; pure (.bool false)
  | '-' => bump; pure (.num (← number false).toNumber)
  | '"' => bump; pure (.str (← string))
  | _ =>
    if c.isDigit then pure (.num (← number true).toNumber)
    else failNext (.malformed .expectedValue)

/-- After the last item of an array: the closing bracket, read. -/
def closeArray : Reader Unit := do
  match ← skipWs with
  | some ']' => bump
  | some ',' =>
    bump
    match ← skipWs with
    | some ']' => failNext (.malformed .trailingComma)
    | _ => failNext (.malformed .trailingCharacters)
  | some _ => failNext (.malformed .trailingCharacters)
  | none => failNext (.malformed .eofList)

/-- After the last field of an object: the closing brace, read. -/
def closeObject : Reader Unit := do
  match ← skipWs with
  | some '}' => bump
  | some ',' => failNext (.malformed .trailingComma)
  | some _ => failNext (.malformed .trailingCharacters)
  | none => failNext (.malformed .eofObject)

/-- The start of the next array item: `true` when one follows (the cursor before it), `false`
at the closing bracket (not read). -/
def nextItem (first : Bool) : Reader Bool := do
  match ← skipWs with
  | some ']' => pure false
  | some ',' =>
    if first then pure true
    else
      bump
      match ← skipWs with
      | some ']' => failNext (.malformed .trailingComma)
      | some _ => pure true
      | none => failNext (.malformed .eofValue)
  | some _ =>
    if first then pure true else failNext (.malformed .expectedListCommaOrEnd)
  | none => failNext (.malformed .eofList)

/-- The key of the next object field, read with its opening quote; `none` at the closing brace
(not read). -/
def nextKey (first : Bool) : Reader (Option String) := do
  let peek2 ← do
    match ← skipWs with
    | some '}' => pure none
    | some ',' =>
      if first then pure (some (some ','))
      else bump; pure (some (← skipWs))
    | some b =>
      if first then pure (some (some b)) else failNext (.malformed .expectedObjectCommaOrEnd)
    | none => failNext (.malformed .eofObject)
  match peek2 with
  | none => pure none
  | some (some '"') => bump; pure (some (← string))
  | some (some '}') => failNext (.malformed .trailingComma)
  | some (some _) => failNext (.malformed .keyMustBeString)
  | some none => failNext (.malformed .eofValue)

/-- The `:` after an object key. -/
def colon : Reader Unit := do
  match ← skipWs with
  | some ':' => bump
  | some _ => failNext (.malformed .expectedColon)
  | none => failNext (.malformed .eofObject)

/-- A nesting bracket is allowed while more than one level is left. -/
def enterLevel (depth : Nat) : Reader Unit := do
  if depth ≤ 1 then failNext (.malformed .recursionLimit) else bump

mutual

/-- **A value**, after optional whitespace. `depth` is the nesting still allowed; `fuel`
bounds the reading steps. -/
def valueAt : Nat → Nat → Reader Value
  | 0, _ => failNext (.malformed .recursionLimit)
  | fuel + 1, depth => do
    match ← skipWs with
    | none => failNext (.malformed .eofValue)
    | some '[' =>
      enterLevel depth
      let items ← itemsAt fuel (depth - 1) true []
      closeArray
      pure (.arr items)
    | some '{' =>
      enterLevel depth
      let fields ← fieldsAt fuel (depth - 1) true []
      closeObject
      pure (.obj fields)
    | some c => scalar c

/-- Array items up to the closing bracket, in order. -/
def itemsAt : Nat → Nat → Bool → List Value → Reader (List Value)
  | 0, _, _, acc => pure acc.reverse
  | fuel + 1, depth, first, acc => do
    if ← nextItem first then
      let v ← valueAt fuel depth
      itemsAt fuel depth false (v :: acc)
    else pure acc.reverse

/-- Object fields up to the closing brace, sorted by key, a repeated key keeping its last
value. -/
def fieldsAt : Nat → Nat → Bool → List (String × Value) → Reader (List (String × Value))
  | 0, _, _, acc => pure acc
  | fuel + 1, depth, first, acc => do
    match ← nextKey first with
    | none => pure acc
    | some k =>
      colon
      let v ← valueAt fuel depth
      fieldsAt fuel depth false (Value.insertSorted k v acc)

end

/-- The nesting allowed to a value read from text. -/
def nestingLimit : Nat := 128

/-- **Read a JSON text** as one value. -/
def parse (text : String) : Except Error Value := do
  let cur := Cursor.start text
  let fuel := 4 * (cur.rest.length + 2)
  let read : Reader Value := do
    let v ← valueAt fuel nestingLimit
    match ← skipWs with
    | some _ => failNext (.malformed .trailingCharacters)
    | none => pure v
  let (v, _) ← read.run cur
  pure v

end PinAudit.Json
