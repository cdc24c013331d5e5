import PinAudit.Text.Quoted

/-!
# Values that do not fit

The messages a typed reader gives when a value does not fit the type expected of it: a value of
another kind, a value out of range, a sequence of the wrong length, a missing, repeated or
unknown field, an unknown variant. What was found is described by `Unexpected.describe`; what
was expected is a phrase such as `a string`, `u32` or `struct Location`.
-/

namespace PinAudit.Json

/-- What a reader found instead of what it expected. -/
inductive Unexpected where
  | null
  | bool (b : Bool)
  | unsigned (n : Nat)
  | signed (i : Int)
  /-- A floating-point number, with its text as the format writes it. -/
  | float (text : String)
  | str (s : String)
  | seq
  | map
  | unitVariant
  /-- Anything else, described by its text. -/
  | other (text : String)
  deriving DecidableEq, Repr

/-- The description of what was found. -/
def Unexpected.describe : Unexpected → String
  | .null => "null"
  | .bool b => "boolean `" ++ (if b then "true" else "false") ++ "`"
  | .unsigned n => "integer `" ++ toString n ++ "`"
  | .signed i => "integer `" ++ toString i ++ "`"
  | .float t => "floating point `" ++ t ++ "`"
  | .str s => "string " ++ Text.quoted s
  | .seq => "sequence"
  | .map => "map"
  | .unitVariant => "unit variant"
  | .other text => text

/-- A value of the wrong kind. -/
def invalidType (u : Unexpected) (expected : String) : String :=
  "invalid type: " ++ u.describe ++ ", expected " ++ expected

/-- A value of the right kind but out of range. -/
def invalidValue (u : Unexpected) (expected : String) : String :=
  "invalid value: " ++ u.describe ++ ", expected " ++ expected

/-- A sequence or map of the wrong length. -/
def invalidLength (n : Nat) (expected : String) : String :=
  "invalid length " ++ toString n ++ ", expected " ++ expected

/-- A required field that is absent. -/
def missingField (name : String) : String := "missing field `" ++ name ++ "`"

/-- A field given twice. -/
def duplicateField (name : String) : String := "duplicate field `" ++ name ++ "`"

/-- A list of names as `` `a`, `b` ``. -/
def backticked (names : List String) : String :=
  ", ".intercalate (names.map fun n => "`" ++ n ++ "`")

/-- A field that the type does not have. -/
def unknownField (name : String) (expected : List String) : String :=
  if expected.isEmpty then "unknown field `" ++ name ++ "`, there are no fields"
  else "unknown field `" ++ name ++ "`, expected one of " ++ backticked expected

/-- A variant that the type does not have. -/
def unknownVariant (name : String) (expected : List String) : String :=
  if expected.isEmpty then "unknown variant `" ++ name ++ "`, there are no variants"
  else "unknown variant `" ++ name ++ "`, expected one of " ++ backticked expected

end PinAudit.Json
