import PinAudit.Text.Quoted

/-!
# Log events

Operations report what they do as log events: a level, the part of the program that speaks
(its *target*, which filters select on), a message, and named values. A command line prints
the events that its filter lets through, one per line as `LEVEL message name=value …`.

Operations that log return their events beside their result, in the order they happened
(`Logged`).
-/

namespace PinAudit

/-- How important an event is, from the most to the least severe. -/
inductive Level where
  | error
  | warn
  | info
  | debug
  | trace
  deriving DecidableEq, Repr

namespace Level

/-- The rank of a level: 1 for `error` up to 5 for `trace`. -/
def rank : Level → Nat
  | .error => 1
  | .warn => 2
  | .info => 3
  | .debug => 4
  | .trace => 5

/-- The level's name in a log line. -/
def name : Level → String
  | .error => "ERROR"
  | .warn => "WARN"
  | .info => "INFO"
  | .debug => "DEBUG"
  | .trace => "TRACE"

end Level

/-- **A log event.** Field values are already written out. -/
structure LogEvent where
  level : Level
  target : String
  message : String
  fields : List (String × String) := []
  deriving DecidableEq, Repr

/-- What an event says: its message, then each field as `name=value`. -/
def LogEvent.text (e : LogEvent) : String :=
  e.message ++ String.join (e.fields.map fun (k, v) => " " ++ k ++ "=" ++ v)

/-- The line of an event: its level, then what it says. -/
def LogEvent.line (e : LogEvent) : String := e.level.name ++ " " ++ e.text

/-- A text field as a log line shows it: quoted. -/
def LogEvent.textField (s : String) : String := Text.quoted s

/-- **A result with the events logged on the way to it.** -/
abbrev Logged (α : Type) := List LogEvent × α

end PinAudit
