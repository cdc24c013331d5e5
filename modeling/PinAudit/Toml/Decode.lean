import PinAudit.Toml.Value
import PinAudit.Json.Mismatch
import PinAudit.Decimal.Shortest

/-!
# Typed reading of TOML values

Readers that take a TOML value to a value of a known type, failing with the span of the value
that does not fit and a message that says what was found and what was expected.

A struct is read from a table, its entries visited in key order, or from an array of its
fields in order. Each field is optional; a key the struct does not have is skipped or, for a
struct that refuses unknown keys, an error at that key. An integer beyond 128 bits or a float
beyond the doubles is an error wherever it stands, also in a skipped value.

Main definitions: `Toml.Value.unexpected`, `Toml.readString`, `Toml.readStrings`,
`Toml.readFields`.
-/

namespace PinAudit.Toml

open Json

/-- The least and the greatest integer of a signed width of `bits` bits. -/
def signedRange (bits : Nat) : Int × Int :=
  (-(Nat.pow 2 (bits - 1) : Int), (Nat.pow 2 (bits - 1) : Int) - 1)

/-- Whether an integer fits a signed width. -/
def fitsSigned (bits : Nat) (i : Int) : Bool :=
  (signedRange bits).1 ≤ i && i ≤ (signedRange bits).2

/-- Whether an integer fits an unsigned width. -/
def fitsUnsigned (bits : Nat) (i : Int) : Bool := 0 ≤ i && i < (Nat.pow 2 bits : Int)

/-- **What is wrong with a number before any reader looks at it**: an integer that fits none of
the widths up to 128 bits (or has no digits), a float too large for a double. -/
def Value.overflow : Value → Option String
  | .integer (some i) =>
    if fitsSigned 128 i || fitsUnsigned 128 i then none else some "integer number overflowed"
  | .integer none => some "integer number overflowed"
  | .float none => some "floating-point number overflowed"
  | _ => none

/-- **What a value is described as** in an error. Integers are read at the narrowest of signed
64, unsigned 64, signed 128 and unsigned 128 bits; the wide ones name their width. Dates and
times read as maps. -/
def Value.unexpected : Value → Unexpected
  | .str s => .str s
  | .integer (some i) =>
    if fitsSigned 64 i then .signed i
    else if fitsUnsigned 64 i then .unsigned i.toNat
    else if fitsSigned 128 i then .other ("integer `" ++ toString i ++ "` as i128")
    else .other ("integer `" ++ toString i ++ "` as u128")
  | .integer none => .other "integer"
  | .float (some bits) => .float (PinAudit.Double.plainWithPoint bits)
  | .float none => .other "floating point"
  | .boolean b => .bool b
  | .datetime _ => .map
  | .array _ => .seq
  | .table _ => .map

/-- A reading failure at a span. -/
abbrev Decoded (α : Type) := Except Error α

/-- Fail because a value is of the wrong kind; a number no reader can take fails first. -/
def mismatch {α : Type} (v : Value) (span : Span) (expected : String) : Decoded α :=
  match v.overflow with
  | some message => .error ⟨message, some span⟩
  | none => .error ⟨invalidType v.unexpected expected, some span⟩

/-- The error of the entry with the least key, among entries' errors. -/
def leastByKey (errors : List (String × Error)) : Option Error :=
  ((errors.mergeSort fun a b => decide (a.1 ≤ b.1)).head?).map (·.2)

mutual

/-- **The first number in a value that no reader can take**, items in order and entries in key
order. -/
def Value.problem : Value → Span → Option Error
  | .array items, _ => itemsProblem items
  | .table es, _ => leastByKey (entryProblems es)
  | v, span => v.overflow.map fun message => ⟨message, some span⟩

/-- The first problem among the items of an array. -/
def itemsProblem : List (Value × Span) → Option Error
  | [] => none
  | (v, s) :: more =>
    match v.problem s with
    | some e => some e
    | none => itemsProblem more

/-- The problems of the entries of a table, with their keys. -/
def entryProblems : List (String × Span × Value × Span) → List (String × Error)
  | [] => []
  | (k, _, v, s) :: more =>
    match v.problem s with
    | some e => (k, e) :: entryProblems more
    | none => entryProblems more

end

/-- **Skip a value** that no field takes; its numbers are still looked at. -/
def skip (v : Value) (span : Span) : Decoded Unit :=
  match v.problem span with
  | some e => .error e
  | none => .ok ()

/-- **A string.** -/
def readString (v : Value) (span : Span) : Decoded String :=
  match v with
  | .str s => .ok s
  | _ => mismatch v span "a string"

/-- **A boolean.** -/
def readBool (v : Value) (span : Span) : Decoded Bool :=
  match v with
  | .boolean b => .ok b
  | _ => mismatch v span "a boolean"

/-- **A list of strings.** -/
def readStrings (v : Value) (span : Span) : Decoded (List String) :=
  match v with
  | .array items => items.mapM fun (item, s) => readString item s
  | _ => mismatch v span "a sequence"

/-- Entries sorted by key. -/
def sortedEntries (es : List (String × Span × Value × Span)) : List (String × Span × Value × Span) :=
  es.mergeSort fun a b => decide (a.1 ≤ b.1)

/-- **Read the fields of a struct** into a record `ρ`, starting from its defaults: `set` reads
the field of a key (or answers `none` for a key the struct does not have). From a table, the
entries are read in key order; an unknown key is an error when `fields` lists the struct's keys
for the message, and skipped when it is `none`. From an array, the items are the fields in
the order of `order`. -/
def readFields {ρ : Type} (name : String) (fields : Option (List String)) (order : List String)
    (init : ρ) (set : ρ → String → Value → Span → Option (Decoded ρ)) (v : Value) (span : Span) :
    Decoded ρ :=
  match v with
  | .table es =>
    List.foldlM (fun acc (k, ks, item, s) =>
      match set acc k item s with
      | some r => r
      | none =>
        match fields with
        | some known => .error ⟨unknownField k known, some ks⟩
        | none => do skip item s; pure acc) init (sortedEntries es)
  | .array items =>
    List.foldlM (fun acc (k, item, s) =>
      match set acc k item s with
      | some r => r
      | none => .ok acc) init (order.zip items)
  | _ => mismatch v span ("struct " ++ name)

end PinAudit.Toml
