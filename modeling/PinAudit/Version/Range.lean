import PinAudit.Text.Blank
import PinAudit.Version.Order

/-!
# Version ranges

A range is one or more intervals written side by side, such as `[1.0,2.0)`, `(,1.0],[1.2,)` or
the single point `[1.0]`. An interval opens with `[` (inclusive) or `(` (exclusive) and closes
at the first `]` or `)` after it. Inside, one comma separates the lower from the upper bound; a
blank side is unbounded. Without a comma the interval is a single version and must be written
with `[` and `]`. Between intervals stand blanks and at most one comma.

Main definitions: `Interval.parse`, `Range.parse`, `Range.contains`, `Range.lowerBound`,
`Range.upperBound`; `RangeError` says why a text is refused.
-/

namespace PinAudit.Version

/-- One end of an interval. -/
structure Bound where
  version : Version
  inclusive : Bool
  deriving DecidableEq, Repr

/-- Two bounds are the same when their versions are equivalent and both are inclusive or both
exclusive. -/
def Bound.same (a b : Bound) : Bool :=
  a.version.equiv b.version && a.inclusive == b.inclusive

/-- An interval; `none` is an unbounded end. -/
structure Interval where
  lower : Option Bound
  upper : Option Bound
  deriving DecidableEq, Repr

/-- Why an interval or a range text is refused. -/
inductive RangeProblem where
  | emptyRange
  | tooManyBounds
  | lowerAboveUpper
  | singleNeedsBrackets
  | expectedOpening
  deriving DecidableEq, Repr

/-- The reason as it is printed. -/
def RangeProblem.reason : RangeProblem → String
  | .emptyRange => "empty range"
  | .tooManyBounds => "a range has at most two bounds"
  | .lowerAboveUpper => "lower bound is greater than upper bound"
  | .singleNeedsBrackets => "a single version must be surrounded by []"
  | .expectedOpening => "expected '[' or '('"

/-- Errors of reading a version constraint. -/
inductive ParseError where
  /-- The constraint is blank. -/
  | empty
  /-- An interval opens and never closes; carries the text from its opening on. -/
  | unterminated (rest : String)
  /-- An interval or the whole range is malformed. -/
  | invalid (range : String) (problem : RangeProblem)
  /-- Text follows the last interval. -/
  | trailing (constraint : String) (rest : String)
  deriving DecidableEq, Repr

/-- The error as it is printed. -/
def ParseError.message : ParseError → String
  | .empty => "version constraint is empty"
  | .unterminated rest => "unterminated version range '" ++ rest ++ "'"
  | .invalid range p => "invalid version range '" ++ range ++ "': " ++ p.reason
  | .trailing c rest => "unexpected text '" ++ rest ++ "' after version range in '" ++ c ++ "'"

/-- A bound read from one trimmed side of an interval; a blank side is unbounded. -/
def sideBound (side : List Char) (inclusive : Bool) : Option Bound :=
  match Text.trimChars side with
  | [] => none
  | cs => some ⟨⟨String.ofList cs⟩, inclusive⟩

/-- **One interval**, from its full text `o ++ inner ++ [c]` where `o` is the opening and `c`
the closing bracket. `text` is the interval's text, quoted in errors. -/
def Interval.parse (text : String) (o : Char) (inner : List Char) (c : Char) :
    Except ParseError Interval :=
  match inner.splitOn ',' with
  | [single] =>
    match Text.trimChars single with
    | [] => .error (.invalid text .emptyRange)
    | v =>
      if o == '[' && c == ']' then
        let b : Bound := ⟨⟨String.ofList v⟩, true⟩
        .ok ⟨some b, some b⟩
      else .error (.invalid text .singleNeedsBrackets)
  | [lo, hi] =>
    let lower := sideBound lo (o == '[')
    let upper := sideBound hi (c == ']')
    match lower, upper with
    | some l, some u =>
      if l.version.compare u.version == .gt then .error (.invalid text .lowerAboveUpper)
      else .ok ⟨lower, upper⟩
    | _, _ => .ok ⟨lower, upper⟩
  | _ => .error (.invalid text .tooManyBounds)

/-- A version lies in an interval when it is above (or at, if inclusive) the lower bound and
below (or at) the upper bound. -/
def Interval.contains (i : Interval) (v : Version) : Bool :=
  let aboveLower :=
    match i.lower with
    | none => true
    | some b => if b.inclusive then b.version.le v else b.version.lt v
  let belowUpper :=
    match i.upper with
    | none => true
    | some b => if b.inclusive then v.le b.version else v.lt b.version
  aboveLower && belowUpper

/-- An opening bracket of an interval. -/
def isOpening (c : Char) : Bool := c == '[' || c == '('

/-- A closing bracket of an interval. -/
def isClosing (c : Char) : Bool := c == ']' || c == ')'

end PinAudit.Version

namespace PinAudit

/-- **A version range**: its trimmed text and its intervals, at least one. -/
structure Range where
  text : String
  intervals : List Version.Interval
  deriving DecidableEq, Repr

namespace Range

open Version

/-- Split off the first interval of `rest`, which starts with an opening bracket: its inner
characters, its closing bracket and what follows it. -/
def splitInterval (rest : List Char) : Option (List Char × Char × List Char) :=
  match rest.span (fun c => !isClosing c) with
  | (_, []) => none
  | (before, c :: after) => some (before.drop 1, c, after)

/-- After an interval: blanks, at most one comma, blanks. -/
def skipJoint (cs : List Char) : List Char :=
  match Text.dropBlank cs with
  | ',' :: more => Text.dropBlank more
  | more => more

/-- Read intervals from `rest` while it starts with an opening bracket; returns them with what
is left. Each round consumes an interval, so the text shrinks; `fuel` counts the rounds left. -/
def intervalsFrom : Nat → List Char → Except ParseError (List Interval × List Char)
  | 0, rest => .ok ([], rest)
  | fuel + 1, rest =>
    match rest with
    | o :: _ =>
      if isOpening o then
        match splitInterval rest with
        | none => .error (.unterminated (String.ofList rest))
        | some (inner, c, after) => do
          let i ← Interval.parse (String.ofList (o :: inner ++ [c])) o inner c
          let (more, left) ← intervalsFrom fuel (skipJoint after)
          pure (i :: more, left)
      else .ok ([], rest)
    | [] => .ok ([], [])

/-- **Read a range.** The text is trimmed first. -/
def parse (text : String) : Except ParseError Range := do
  let trimmed := Text.trimChars text.toList
  let t := String.ofList trimmed
  let (intervals, rest) ← intervalsFrom (trimmed.length + 1) trimmed
  match intervals with
  | [] => .error (.invalid t .expectedOpening)
  | _ =>
    if rest.isEmpty then pure ⟨t, intervals⟩
    else .error (.trailing t (String.ofList rest))

/-- A version lies in a range when it lies in one of its intervals. -/
def contains (r : Range) (v : Version) : Bool :=
  r.intervals.any fun (i : Version.Interval) => i.contains v

/-- Keep the earlier of two bounds unless the later one is strictly lower. -/
def lowerOf (current : Bound) (b : Bound) : Bound :=
  if current.version.le b.version then current else b

/-- Keep the earlier of two bounds unless the later one is strictly higher. -/
def upperOf (current : Bound) (b : Bound) : Bound :=
  if b.version.le current.version then current else b

/-- Fold the bounds of the intervals with `pick`; `none` as soon as one interval is unbounded
at that end. -/
def foldBounds (pick : Bound → Bound → Bound) : Option Bound → List (Option Bound) → Option Bound
  | acc, [] => acc
  | _, none :: _ => none
  | none, some b :: bs => foldBounds pick (some b) bs
  | some a, some b :: bs => foldBounds pick (some (pick a b)) bs

/-- **The lowest lower bound**, the first of equivalent ones; `none` when an interval has no
lower bound. -/
def lowerBound (r : Range) : Option Bound :=
  foldBounds lowerOf none (r.intervals.map fun (i : Version.Interval) => i.lower)

/-- **The highest upper bound**, the first of equivalent ones; `none` when an interval has no
upper bound. -/
def upperBound (r : Range) : Option Bound :=
  foldBounds upperOf none (r.intervals.map fun (i : Version.Interval) => i.upper)

/-- A range is a single point when its lowest and highest bounds are the same bound. -/
def hasIdenticalBounds (r : Range) : Bool :=
  match r.lowerBound, r.upperBound with
  | some lo, some hi => lo.same hi
  | _, _ => false

end Range

end PinAudit
