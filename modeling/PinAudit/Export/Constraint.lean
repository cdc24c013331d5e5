import PinAudit.Json.Value
import PinAudit.Version.Constraint

/-!
# JSON export of versions and constraints

The JSON form in which the library exports a version constraint. Every form carries `kind`
and `display` (`Constraint.display`); a fixed version adds its `text` and whether it is a
snapshot, an alias its word, a range its trimmed `text`, its intervals, its lowest and highest
bounds and whether those are the same bound. A bound is `null` when unbounded, else its
version's text and whether it is inclusive.
-/

namespace PinAudit.Export

open Json

/-- A bound, `null` when unbounded. -/
def bound : Option Version.Bound → Value
  | none => .null
  | some b => .obj [("version", .str b.version.text), ("inclusive", .bool b.inclusive)]

/-- An interval. -/
def interval (i : Version.Interval) : Value :=
  .obj [("lower", bound i.lower), ("upper", bound i.upper)]

/-- The fields of a range. -/
def rangeFields (r : Range) : List (String × Value) :=
  [("kind", .str "range"), ("text", .str r.text), ("intervals", .arr (r.intervals.map interval)),
    ("lower_bound", bound r.lowerBound), ("upper_bound", bound r.upperBound),
    ("identical_bounds", .bool r.hasIdenticalBounds), ("display", .str r.text)]

/-- **A constraint** in its exported form. -/
def constraint (c : Constraint) : Value :=
  match c with
  | .fixed v =>
    .obj [("kind", .str "fixed"), ("text", .str v.text), ("snapshot", .bool v.isSnapshot),
      ("display", .str c.display)]
  | .alias a => .obj [("kind", .str "alias"), ("alias", .str a.text), ("display", .str c.display)]
  | .range r => .obj (rangeFields r)
  | .unrecognized raw =>
    .obj [("kind", .str "unrecognized"), ("text", .str raw), ("display", .str c.display)]

end PinAudit.Export
