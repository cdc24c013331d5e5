/-!
# Timestamps

A report records when a run started and when it finished: a calendar date and a wall-clock
time at an offset from UTC, to the nanosecond, written in the RFC 3339 profile of ISO 8601,
as in `2024-01-01T00:00:01.5+05:30`.

Reading (`Timestamp.parse`) takes, in this order: a four-digit year, `-`, a two-digit month
other than `00`, `-`, a two-digit day, any one byte as the separator (usually `T` or a blank),
two-digit hour, minute and second separated by `:`, an optional fraction (a `.` and one or more
digits, of which the first nine count), and last `Z` (or `z`) or a signed `hh:mm` offset with
`hh ≤ 23`. The first piece that does not match is the error; only then are the ranges checked:
the offset's minutes, the month, the day within its month, the hour, the minute and the
second. A second of `60` is read as the
last nanosecond of second `59`, and is accepted only where a leap second can stand: at the last
second of a month in UTC.

Writing (`Timestamp.render`) gives the date and time with the fraction's trailing zeros cut
(no fraction at all when it is zero), then `Z` for offset zero, else the signed offset.

Main definitions: `Timestamp`, `Timestamp.parse`, `Timestamp.render`, `Timestamp.ofUnix`.
-/

namespace PinAudit

/-- **An instant as written in a report**: the local date and time and the offset from UTC in
minutes (east positive). -/
structure Timestamp where
  year : Nat
  month : Nat
  day : Nat
  hour : Nat
  minute : Nat
  second : Nat
  nanosecond : Nat
  offset : Int
  deriving DecidableEq, Repr

/-- Why a text is not a timestamp. -/
inductive TimestampError where
  /-- A piece is missing or is not digits. -/
  | component (name : String)
  /-- A separator is not the one expected. -/
  | literal
  /-- Text follows the offset. -/
  | trailing
  /-- A piece was read but its value cannot be. -/
  | outOfRange (name : String)
  deriving DecidableEq, Repr

/-- The error as it is printed. -/
def TimestampError.message : TimestampError → String
  | .component n => "the '" ++ n ++ "' component could not be parsed"
  | .literal => "a character literal was not valid"
  | .trailing => "unexpected trailing characters; the end of input was expected"
  | .outOfRange n => n ++ " was not in range"

namespace Timestamp

/-- Leap years of the proleptic Gregorian calendar. -/
def isLeapYear (y : Nat) : Bool := y % 4 == 0 && (y % 100 != 0 || y % 400 == 0)

/-- The number of days of a month (`1` to `12`) in a year. -/
def daysInMonth (y m : Nat) : Nat :=
  match m with
  | 2 => if isLeapYear y then 29 else 28
  | 4 | 6 | 9 | 11 => 30
  | _ => 31

/-- `n` decimal digits at the front of a text, read onto `acc`, and the rest. -/
def takeDigits : Nat → Nat → List Char → Option (Nat × List Char)
  | 0, acc, cs => some (acc, cs)
  | n + 1, acc, c :: cs =>
    if c.isDigit then takeDigits n (10 * acc + (c.toNat - '0'.toNat)) cs else none
  | _ + 1, _, [] => none

/-- The digits of a fraction of a second: the first digit is worth `place` nanoseconds, each
next one a tenth of the one before, so digits past the ninth are worth nothing. -/
def fraction (place acc : Nat) : List Char → Nat × List Char
  | c :: cs =>
    if c.isDigit then fraction (place / 10) (acc + (c.toNat - '0'.toNat) * place) cs
    else (acc, c :: cs)
  | [] => (acc, [])

/-- `n` digits or the error naming the piece. -/
def piece (n : Nat) (name : String) (cs : List Char) : Except TimestampError (Nat × List Char) :=
  match takeDigits n 0 cs with
  | some r => .ok r
  | none => .error (.component name)

/-- One separator character, matched by `p`. -/
def separator (p : Char → Bool) : List Char → Except TimestampError (List Char)
  | c :: cs => if p c then .ok cs else .error .literal
  | [] => .error .literal

/-- The separator between date and time: any one byte. An ASCII character is skipped; a wider
character loses only its first byte, and what is left of it is no digit of the hour. -/
def dateTimeSeparator : List Char → Except TimestampError (List Char)
  | c :: cs => if c.toNat < 128 then .ok cs else .error (.component "hour")
  | [] => .error (.component "separator")

/-- The optional fraction of a second, in nanoseconds. -/
def subsecond : List Char → Except TimestampError (Nat × List Char)
  | '.' :: c :: cs =>
    if c.isDigit then .ok (fraction 100000000 0 (c :: cs)) else .error (.component "subsecond")
  | ['.'] => .error (.component "subsecond")
  | cs => .ok (0, cs)

/-- The offset: `Z` or `±hh:mm`, in minutes. -/
def offsetPart : List Char → Except TimestampError (Int × List Char)
  | c :: cs =>
    if c == 'Z' || c == 'z' then .ok (0, cs)
    else if c == '+' || c == '-' then do
      let (h, cs) ←
        match takeDigits 2 0 cs with
        | some (h, rest) => if h ≤ 23 then pure (h, rest) else throw (.component "offset hour")
        | none => throw (.component "offset hour")
      let cs ← separator (· == ':') cs
      let (m, cs) ← piece 2 "offset minute" cs
      if m > 59 then throw (.outOfRange "offset minute")
      let size : Int := (h * 60 + m : Nat)
      pure (if c == '-' then -size else size, cs)
    else .error (.component "offset hour")
  | [] => .error (.component "offset hour")

/-- A local time of `hh:mm:59.999999999` at an offset is the last instant of a month in UTC.
The offset is less than a day, so the UTC date is the local date or a neighbour: the same date
when the UTC time is `23:59`, the day before when the local time is a minute short of that. -/
def endsMonthInUtc (year month day hour minute : Nat) (offset : Int) : Bool :=
  let utc : Int := (hour * 60 + minute : Nat) - offset
  (utc == 1439 && day == daysInMonth year month) || (utc == -1 && day == 1)

/-- **Read a timestamp** written in RFC 3339. -/
def parse (text : String) : Except TimestampError Timestamp := do
  let cs := text.toList
  let (year, cs) ← piece 4 "year" cs
  let cs ← separator (· == '-') cs
  let (month, cs) ← piece 2 "month" cs
  if month == 0 then throw (.component "month")
  let cs ← separator (· == '-') cs
  let (day, cs) ← piece 2 "day" cs
  let cs ← dateTimeSeparator cs
  let (hour, cs) ← piece 2 "hour" cs
  let cs ← separator (· == ':') cs
  let (minute, cs) ← piece 2 "minute" cs
  let cs ← separator (· == ':') cs
  let (second, cs) ← piece 2 "second" cs
  let (nanosecond, cs) ← subsecond cs
  let (offset, cs) ← offsetPart cs
  if !cs.isEmpty then throw .trailing
  let leap := second == 60
  let (second, nanosecond) := if leap then (59, 999999999) else (second, nanosecond)
  if month < 1 || month > 12 then throw (.outOfRange "month")
  if day < 1 || day > daysInMonth year month then throw (.outOfRange "day")
  if hour > 23 then throw (.outOfRange "hour")
  if minute > 59 then throw (.outOfRange "minute")
  if second > 59 then throw (.outOfRange "second")
  if leap && !endsMonthInUtc year month day hour minute offset then
    throw (.outOfRange "second")
  pure ⟨year, month, day, hour, minute, second, nanosecond, offset⟩

/-- A number in decimal, padded with zeros to `width` digits. -/
def padded (width n : Nat) : String :=
  let s := toString n
  String.ofList (List.replicate (width - s.length) '0') ++ s

/-- The digits of a fraction without its trailing zeros. -/
def trimZeros (s : String) : String :=
  String.ofList (s.toList.reverse.dropWhile (· == '0')).reverse

/-- The fraction of a second: nothing when it is zero, else `.` and its digits without
trailing zeros. -/
def fractionText (nanosecond : Nat) : String :=
  if nanosecond == 0 then "" else "." ++ trimZeros (padded 9 nanosecond)

/-- The offset: `Z` for zero, else `+hh:mm` or `-hh:mm`. -/
def offsetText (offset : Int) : String :=
  if offset == 0 then "Z"
  else
    let size := offset.natAbs
    (if offset < 0 then "-" else "+") ++ padded 2 (size / 60) ++ ":" ++ padded 2 (size % 60)

/-- **Write a timestamp** in RFC 3339. -/
def render (t : Timestamp) : String :=
  padded 4 t.year ++ "-" ++ padded 2 t.month ++ "-" ++ padded 2 t.day ++ "T" ++
    padded 2 t.hour ++ ":" ++ padded 2 t.minute ++ ":" ++ padded 2 t.second ++
    fractionText t.nanosecond ++ offsetText t.offset

/-- The civil date of a day counted from 1970-01-01, in the proleptic Gregorian calendar:
days are grouped into eras of 400 years starting on a 1 March (`/` on integers rounds down),
within which years and months follow from the era's day by fixed arithmetic. -/
def civilOfDays (days : Int) : Int × Nat × Nat :=
  let z := days + 719468
  let era := z / 146097
  let doe := (z - era * 146097).toNat
  let yoe := (doe - doe / 1460 + doe / 36524 - doe / 146096) / 365
  let doy := doe - (365 * yoe + yoe / 4 - yoe / 100)
  let mp := (5 * doy + 2) / 153
  let day := doy - (153 * mp + 2) / 5 + 1
  let month := if mp < 10 then mp + 3 else mp - 9
  let year : Int := yoe + era * 400 + (if month ≤ 2 then 1 else 0)
  (year, month, day)

/-- **The UTC timestamp** of a count of seconds since 1970-01-01T00:00:00Z and nanoseconds
into the next second. -/
def ofUnix (seconds : Int) (nanosecond : Nat) : Timestamp :=
  let days := seconds / 86400
  let secs := (seconds % 86400).toNat
  let (year, month, day) := civilOfDays days
  ⟨year.toNat, month, day, secs / 3600, secs % 3600 / 60, secs % 60, nanosecond % 1000000000, 0⟩

end Timestamp

end PinAudit
