import PinAudit.Version.Item

/-!
# The order of versions

Versions are compared item by item. Numbers compare by value (by digit count, then digit by
digit, so there is no size limit); a number is above every qualifier; qualifiers follow the
precedence `alpha < beta < milestone < rc < snapshot < "" < sp`, and any other qualifier is
above these, other qualifiers comparing by their text. When one version runs out of items,
the other's next item is compared with the null padding: the number zero is equal to it, other
numbers are above it, and a qualifier compares by precedence with the empty qualifier.

Main definitions: `Version`, `Version.compare`, with `Version.equiv` for equality of versions.
-/

namespace PinAudit.Version

/-- Precedence class of a qualifier, and the text that orders qualifiers of the last class. -/
def qualifierRank (q : String) : Nat × String :=
  if q == "alpha" then (0, "")
  else if q == "beta" then (1, "")
  else if q == "milestone" then (2, "")
  else if q == "rc" then (3, "")
  else if q == "snapshot" then (4, "")
  else if q == "" then (5, "")
  else if q == "sp" then (6, "")
  else (7, q)

/-- Lexicographic order of two comparisons: the first decides unless it is `eq`. -/
def thenCompare (first : Ordering) (second : Ordering) : Ordering :=
  match first with
  | .eq => second
  | o => o

/-- Order of qualifier ranks: by class, then by text. -/
def compareRank (a b : Nat × String) : Ordering :=
  thenCompare (compare a.1 b.1) (compare a.2 b.2)

/-- Order of number items: more digits is larger; equal counts compare digit by digit. -/
def compareDigits (a b : String) : Ordering :=
  thenCompare (compare a.length b.length) (compare a b)

/-- Order of two items. -/
def Item.compare : Item → Item → Ordering
  | .number x, .number y => compareDigits x y
  | .number _, .qualifier _ => .gt
  | .qualifier _, .number _ => .lt
  | .qualifier x, .qualifier y => compareRank (qualifierRank x) (qualifierRank y)

/-- Order of an item against the padding of a shorter version. -/
def Item.compareNull : Item → Ordering
  | .number d => if d == "0" then .eq else .gt
  | .qualifier q => compareRank (qualifierRank q) (qualifierRank "")

/-- Order of two item lists, the shorter one padded with null items. -/
def compareItems : List Item → List Item → Ordering
  | [], [] => .eq
  | a :: as, [] => thenCompare a.compareNull (compareItems as [])
  | [], b :: bs => thenCompare b.compareNull.swap (compareItems [] bs)
  | a :: as, b :: bs => thenCompare (a.compare b) (compareItems as bs)

end PinAudit.Version

namespace PinAudit

/-- **A version**, known by its text; its order comes from the text's items. -/
structure Version where
  text : String
  deriving DecidableEq, Repr

namespace Version

/-- The items of the version's text. -/
def itemList (v : Version) : List Item := items v.text

/-- **Order of versions**, by their items. -/
def compare (v w : Version) : Ordering :=
  compareItems v.itemList w.itemList

/-- Two versions are *equivalent* when neither is above the other (`1.0` and `1`). -/
def equiv (v w : Version) : Bool := v.compare w == .eq

/-- `v` is below `w`. -/
def lt (v w : Version) : Bool := v.compare w == .lt

/-- `v` is below or equivalent to `w`. -/
def le (v w : Version) : Bool := v.compare w != .gt

/-- Snapshot versions end with the case-sensitive suffix `-SNAPSHOT`. -/
def isSnapshot (v : Version) : Bool := v.text.endsWith "-SNAPSHOT"

/-- The comparison as the integer `-1`, `0` or `1`. -/
def compareSign (v w : Version) : Int :=
  match v.compare w with
  | .lt => -1
  | .eq => 0
  | .gt => 1

end Version

end PinAudit
