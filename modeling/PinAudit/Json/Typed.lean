import PinAudit.Json.Value
import PinAudit.Json.Mismatch
import PinAudit.Decimal.Shortest

/-!
# Typed data from a JSON value

Reading a value already parsed into the shape of a record, an enumeration, a string, an
unsigned 32-bit number, an optional value or a list, with the message of `Json.Mismatch` when
it does not fit.

- A record is read from an object or from an array. From an object, the values of the fields
  it has are checked in key order, so the first field in key order with a bad value is the one
  reported; then its fields are taken in declaration order, and an absent field is an error, or
  `none`, or a default. Keys that are not fields are ignored. From an array, the items are the
  fields in declaration order: a missing item is an error unless the field has a default, and
  items left over are an error.
- An enumeration without payloads is read from its name, or from an object with the name as
  its one key and `null` as its value.
- A number is an unsigned 32-bit one when it is an integer from `0` to `2^32 - 1`.

Main definitions: `Value.unexpected`, `Value.readRecord`, `Value.readVariant`, `Value.readU32`.
-/

namespace PinAudit.Json

/-- **What a value is**, as mismatch messages describe it. -/
def Value.unexpected : Value → Unexpected
  | .null => .null
  | .bool b => .bool b
  | .num (.nat n) => .unsigned n
  | .num (.neg i) => .signed i
  | .num (.double b) => .float ((Double.scientific b).getD "")
  | .str s => .str s
  | .arr _ => .seq
  | .obj _ => .map

namespace Value

/-- A string. -/
def readString : Value → Except String String
  | .str s => .ok s
  | v => .error (invalidType v.unexpected "a string")

/-- The largest unsigned 32-bit number. -/
def maxU32 : Nat := Nat.pow 2 32 - 1

/-- **An unsigned 32-bit number**: an integer in range; an integer out of range is an invalid
value, anything else an invalid type. -/
def readU32 : Value → Except String Nat
  | .num (.nat n) => if n ≤ maxU32 then .ok n else .error (invalidValue (.unsigned n) "u32")
  | .num (.neg i) => .error (invalidValue (.signed i) "u32")
  | v => .error (invalidType v.unexpected "u32")

/-- An optional value: `null` is absent. -/
def readOption {α : Type} (read : Value → Except String α) : Value → Except String (Option α)
  | .null => .ok none
  | v => some <$> read v

/-- A list of values, each read in order. -/
def readList {α : Type} (read : Value → Except String α) : Value → Except String (List α)
  | .arr items => items.mapM read
  | v => .error (invalidType v.unexpected "a sequence")

/-- The case named `name` among `cases`. -/
def variantNamed {α : Type} (cases : List (String × α)) (name : String) : Except String α :=
  match cases.lookup name with
  | some a => .ok a
  | none => .error (unknownVariant name (cases.map Prod.fst))

/-- **A case of an enumeration without payloads**: its name, or an object whose one key is the
name and whose value is `null`. -/
def readVariant {α : Type} (cases : List (String × α)) : Value → Except String α
  | .str s => variantNamed cases s
  | .obj [(k, payload)] => do
    let a ← variantNamed cases k
    match payload with
    | .null => pure a
    | v => throw (invalidType v.unexpected "unit")
  | .obj _ => .error (invalidValue .map "map with a single key")
  | v => .error (invalidType v.unexpected "string or map")

end Value

/-- How a record's field reads when it is absent. -/
inductive Absent (α : Type) where
  /-- The field must be given. -/
  | required
  /-- An object may leave the field out, which reads as `none`; an array may not. -/
  | optional (none : α)
  /-- The field may be left out anywhere, which reads as the default. -/
  | fallback (d : α)

/-- **The shape of a record**: its name and its fields in declaration order, each with a check
of its value. -/
structure Shape where
  name : String
  fields : List (String × (Value → Except String Unit))

/-- A field check from a field reader. -/
def Shape.check {α : Type} (read : Value → Except String α) (v : Value) : Except String Unit :=
  (fun _ => ()) <$> read v

/-- The fields of a record being read: array items not yet taken, with how many were taken,
or an object's entries. -/
inductive FieldSource where
  | items (taken : Nat) (rest : List Value)
  | entries (kvs : List (String × Value))

/-- Reading the fields of a record of a shape, one after the other. -/
abbrev FieldReader := ReaderT Shape (StateT FieldSource (Except String))

/-- **The next field** of a record. -/
def field {α : Type} (name : String) (absent : Absent α) (decode : Value → Except String α) :
    FieldReader α := do
  let shape ← read
  match ← get with
  | .items taken (v :: rest) =>
    let a ← decode v
    set (FieldSource.items (taken + 1) rest)
    pure a
  | .items taken [] =>
    match absent with
    | .fallback d => pure d
    | _ =>
      throw (invalidLength taken
        ("struct " ++ shape.name ++ " with " ++ toString shape.fields.length ++ " elements"))
  | .entries kvs =>
    match kvs.lookup name with
    | some v => decode v
    | none =>
      match absent with
      | .required => throw (missingField name)
      | .optional n => pure n
      | .fallback d => pure d

/-- The values of a record's fields in an object, checked in key order. -/
def checkEntries (shape : Shape) : List (String × Value) → Except String Unit
  | [] => .ok ()
  | (k, v) :: kvs => do
    match shape.fields.lookup k with
    | some check => check v
    | none => pure ()
    checkEntries shape kvs

/-- **A record of a shape** from an object or an array, its fields read by `body`. -/
def Value.readRecord {α : Type} (shape : Shape) (body : FieldReader α) :
    Value → Except String α
  | .arr items => do
    let (a, rest) ← (body.run shape).run (.items 0 items)
    match rest with
    | .items _ [] => pure a
    | _ => throw (invalidLength items.length "fewer elements in array")
  | .obj kvs => do
    checkEntries shape kvs
    (body.run shape).run' (.entries kvs)
  | v => .error (invalidType v.unexpected ("struct " ++ shape.name))

end PinAudit.Json
