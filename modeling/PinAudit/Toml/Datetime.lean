/-!
# TOML dates and times

A date-time value is a local date `YYYY-MM-DD`, a local time `HH:MM[:SS[.fraction]]`, or a date
and a time joined by `T`, `t` or a space, the last optionally followed by an offset `Z`, `z` or
`±HH:MM`. Seconds may be left out.

The text is cut into runs of digits and single marks (`-`, `:`, `.`, `T`, a space, `Z`, `+`);
anything else is an unknown rest. The parts are taken in order, then their widths are checked
(four digits for a year, two for the others), then their ranges: months `01`–`12`, days up to
the length of the month (February has 29 days in years divisible by 4 but not by 100, and in
years divisible by 400), hours `00`–`23`, minutes `00`–`59`, seconds `00`–`60`.

A failure says which part is wrong (`date`, `time`, `offset`, `date-time`, or the whole
`datetime`) and what was expected there: `invalid date, expected day between 01 and 28`.

Main definitions: `Toml.DatetimeProblem`, `Toml.checkDatetime`.
-/

namespace PinAudit.Toml

/-- **What is wrong with a date-time**: the part that is wrong, and what was expected. -/
structure DatetimeProblem where
  what : Option String
  expected : Option String
  deriving DecidableEq, Repr

/-- The message of a date-time problem. -/
def DatetimeProblem.message (p : DatetimeProblem) : String :=
  "invalid " ++ p.what.getD "datetime" ++
    match p.expected with
    | some e => ", expected " ++ e
    | none => ""

/-- A run of a date-time text. -/
inductive DatetimeRun where
  | digits (ds : List Char)
  | dash
  | colon
  | dot
  | timeMark
  | space
  | zone
  | plus
  | unknown
  deriving DecidableEq, Repr

namespace DatetimeRun

/-- The run at the start of a text, and the text after it. -/
def next : List Char → Option (DatetimeRun × List Char)
  | [] => none
  | c :: cs =>
    if c.isDigit then
      let ds := (c :: cs).takeWhile Char.isDigit
      some (.digits ds, (c :: cs).drop ds.length)
    else
      match c with
      | '-' => some (.dash, cs)
      | ':' => some (.colon, cs)
      | '.' => some (.dot, cs)
      | 'T' | 't' => some (.timeMark, cs)
      | ' ' => some (.space, cs)
      | 'Z' | 'z' => some (.zone, cs)
      | '+' => some (.plus, cs)
      | _ => some (.unknown, [])

end DatetimeRun

/-- A check of a date-time text. -/
abbrev DatetimeCheck := Except DatetimeProblem

/-- Fail about a part. -/
def refuse {α : Type} (what : Option String) (expected : String) : DatetimeCheck α :=
  .error ⟨what, some expected⟩

/-- The digits of the next run, failing with `what` and `expected` when it is missing or not
digits. -/
def digitsRun (cs : List Char) (what : Option String) (expected : String) :
    DatetimeCheck (List Char × List Char) :=
  match DatetimeRun.next cs with
  | some (.digits ds, rest) => .ok (ds, rest)
  | _ => refuse what expected

/-- The next run must be a given mark. -/
def markRun (cs : List Char) (mark : DatetimeRun) (what : Option String) (expected : String) :
    DatetimeCheck (List Char) :=
  match DatetimeRun.next cs with
  | some (r, rest) => if r == mark then .ok rest else refuse what expected
  | none => refuse what expected

/-- The value of decimal digits. -/
def digitsValue (ds : List Char) : Nat := ds.foldl (fun n c => 10 * n + (c.toNat - 48)) 0

/-- Whether a year has a 29th of February. -/
def isLeapYear (year : Nat) : Bool := year % 4 == 0 && (year % 100 != 0 || year % 400 == 0)

/-- What is expected of the day of a month in a year, and the month's last day. -/
def dayRange (year month : Nat) : Nat × String :=
  if month == 2 then
    if isLeapYear year then (29, "day between 01 and 29") else (28, "day between 01 and 28")
  else if month == 4 || month == 6 || month == 9 || month == 11 then (30, "day between 01 and 30")
  else (31, "day between 01 and 31")

/-- Check a date `YYYY-MM-DD` after its year and dash; answers the rest. -/
def checkDate (year : List Char) (cs : List Char) : DatetimeCheck (List Char) := do
  let (month, cs) ← digitsRun cs (some "date") "month"
  let cs ← markRun cs .dash (some "date") "`-` (MM-DD)"
  let (day, cs) ← digitsRun cs (some "date") "day"
  if year.length != 4 then refuse (some "date") "a four-digit year (YYYY)"
  else if month.length != 2 then refuse (some "date") "a two-digit month (MM)"
  else if day.length != 2 then refuse (some "date") "a two-digit day (DD)"
  else
    let m := digitsValue month
    let d := digitsValue day
    if m < 1 || m > 12 then refuse (some "date") "month between 01 and 12"
    else
      let (last, expected) := dayRange (digitsValue year) m
      if d < 1 || d > last then refuse (some "date") expected
      else pure cs

/-- Check a time `HH:MM[:SS[.fraction]]`; answers the rest. -/
def checkTime (cs : List Char) : DatetimeCheck (List Char) := do
  let (hour, cs) ← digitsRun cs (some "time") "hour"
  let cs ← markRun cs .colon (some "time") "`:` (HH:MM)"
  let (minute, cs) ← digitsRun cs (some "time") "minute"
  let (second, cs) ← match DatetimeRun.next cs with
    | some (.colon, rest) => do
      let (s, rest) ← digitsRun rest (some "time") "second"
      pure (some s, rest)
    | _ => pure (none, cs)
  let cs ← match second, DatetimeRun.next cs with
    | some _, some (.dot, rest) => do
      let (_, rest) ← digitsRun rest (some "time") "nanosecond"
      pure rest
    | _, _ => pure cs
  if hour.length != 2 then refuse (some "time") "a two-digit hour (HH)"
  else if minute.length != 2 then refuse (some "time") "a two-digit minute (MM)"
  else if second.any (·.length != 2) then refuse (some "time") "a two-digit second (SS)"
  else if digitsValue hour > 23 then refuse (some "time") "hour between 00 and 23"
  else if digitsValue minute > 59 then refuse (some "time") "minute between 00 and 59"
  else if second.any (digitsValue · > 60) then refuse (some "time") "second between 00 and 60"
  else pure cs

/-- Check the offset after a date and time; answers the rest. -/
def checkOffset (cs : List Char) : DatetimeCheck (List Char) :=
  match DatetimeRun.next cs with
  | none => pure cs
  | some (.zone, rest) => pure rest
  | some (.plus, rest) | some (.dash, rest) => do
    let (hours, rest) ← digitsRun rest (some "offset") "hour"
    let rest ← markRun rest .colon (some "offset") "`:` (HH:MM)"
    let (minutes, rest) ← digitsRun rest (some "offset") "minute"
    if hours.length != 2 then refuse (some "offset") "a two-digit hour (HH)"
    else if minutes.length != 2 then refuse (some "offset") "a two-digit minute (MM)"
    else if digitsValue hours > 23 then refuse (some "offset") "hours between 00 and 23"
    else if digitsValue minutes > 59 then refuse (some "offset") "minutes between 00 and 59"
    else pure rest
  | some _ => refuse (some "offset") "`Z`, +OFFSET, -OFFSET"

/-- **Check a date-time text.** -/
def checkDatetime (cs : List Char) : DatetimeCheck Unit := do
  let (first, rest) ← digitsRun cs none "year or hour"
  let rest ← match DatetimeRun.next rest with
    | some (.dash, afterDash) => do
      let afterDate ← checkDate first afterDash
      match DatetimeRun.next afterDate with
      | none => pure afterDate
      | some (.timeMark, afterMark) | some (.space, afterMark) =>
        checkOffset (← checkTime afterMark)
      | some _ => refuse (some "date-time") "`T` between date and time"
    | some (.colon, _) => checkTime cs
    | _ => refuse none "`-` (YYYY-MM) or `:` (HH:MM)"
  if rest.isEmpty then pure () else .error ⟨none, none⟩

end PinAudit.Toml
