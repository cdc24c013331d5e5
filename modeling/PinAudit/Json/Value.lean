/-!
# JSON values

A JSON value as a reader of this library holds it. Numbers keep the form they were read in: a
non-negative integer below `2^64`, a negative integer not below `-2^63`, or a double (by its
IEEE-754 bit pattern) for every other number. Objects are association lists; an object read
from text is sorted by key (in code-point order) and holds each key once, the last occurrence
winning (`Value.insertSorted`), while an object built by the library keeps the order it was
built in.

Main definitions: `Number`, `Value`, `Value.insertSorted`, and the accessors `Value.field?`,
`Value.str?`, `Value.bool?`, `Value.nat?`, `Value.array?`.
-/

namespace PinAudit.Json

/-- A JSON number. -/
inductive Number where
  /-- A non-negative integer below `2^64`. -/
  | nat (n : Nat)
  /-- A negative integer not below `-2^63`. -/
  | neg (i : Int)
  /-- A double, by its IEEE-754 bit pattern. -/
  | double (bits : UInt64)
  deriving DecidableEq, Repr

/-- A JSON value. -/
inductive Value where
  | null
  | bool (b : Bool)
  | num (n : Number)
  | str (s : String)
  | arr (items : List Value)
  | obj (fields : List (String × Value))
  deriving Repr, Inhabited

namespace Value

/-- Insert a key into a sorted object, replacing the value of a key already there. -/
def insertSorted (k : String) (v : Value) : List (String × Value) → List (String × Value)
  | [] => [(k, v)]
  | (k', v') :: rest =>
    if k == k' then (k, v) :: rest
    else if k < k' then (k, v) :: (k', v') :: rest
    else (k', v') :: insertSorted k v rest

/-- The value of a key of an object. -/
def field? (v : Value) (k : String) : Option Value :=
  match v with
  | .obj fs => fs.lookup k
  | _ => none

/-- A string's text. -/
def str? : Value → Option String
  | .str s => some s
  | _ => none

/-- A boolean. -/
def bool? : Value → Option Bool
  | .bool b => some b
  | _ => none

/-- A non-negative integer. -/
def nat? : Value → Option Nat
  | .num (.nat n) => some n
  | _ => none

/-- An array's items. -/
def array? : Value → Option (List Value)
  | .arr xs => some xs
  | _ => none

/-- An object's fields. -/
def object? : Value → Option (List (String × Value))
  | .obj fs => some fs
  | _ => none

/-- The value is `null`. -/
def isNull : Value → Bool
  | .null => true
  | _ => false

/-- A natural number as a JSON number. -/
def ofNat (n : Nat) : Value := .num (.nat n)

/-- An integer as a JSON number. -/
def ofInt (i : Int) : Value := if i < 0 then .num (.neg i) else .num (.nat i.toNat)

/-- An optional string, `null` when absent. -/
def ofOptString : Option String → Value
  | some s => .str s
  | none => .null

/-- A list of strings. -/
def ofStrings (xs : List String) : Value := .arr (xs.map .str)

mutual

/-- Apply a function to every string inside a value; keys are kept. -/
def mapStrings (f : String → String) : Value → Value
  | .str s => .str (f s)
  | .arr items => .arr (mapStringsIn f items)
  | .obj fields => .obj (mapStringsAt f fields)
  | v => v

/-- `mapStrings` on the items of an array. -/
def mapStringsIn (f : String → String) : List Value → List Value
  | [] => []
  | v :: vs => mapStrings f v :: mapStringsIn f vs

/-- `mapStrings` on the values of an object. -/
def mapStringsAt (f : String → String) : List (String × Value) → List (String × Value)
  | [] => []
  | (k, v) :: kvs => (k, mapStrings f v) :: mapStringsAt f kvs

end

end Value

end PinAudit.Json
