import PinAudit.Log
import PinAudit.Log.Pattern

/-!
# Log filters

Which events a command line prints is decided by a *filter*: a list of directives separated by
commas, as in `info,pinguard_app=debug`. A directive is a target, then perhaps a span in
brackets, then perhaps `=` and a level; it names a target or a span or both.

- A *target* is a run of word characters, white space, `.`, `:` and `-`. A target alone that
  reads as a level is that level for every event; beside a span or a level it stands for no
  target at all.
- A *level* is `trace`, `debug`, `info`, `warn`, `error` or `off` in any case, or a number from
  `0` for `off` to `5` for `trace`, perhaps with a `+` sign and leading zeros. A missing or
  empty level means `trace`.
- A *span* is `[name]`, `[name{fields}]` or `[{fields}]`, where the fields are separated by
  commas and each may ask for a value with `=`; a value is a boolean, a number or a regular
  expression, which must compile.

A directive that names a span (empty brackets name the span with the empty name) or matches
field values only applies inside spans; the program opens none, so such directives never let an
event through. A directive with field names but no values applies to the events that carry
every one of those fields.

Directives are ordered from the most specific to the least: a longer target (in bytes) first,
more field names first, then by target and field names. A later directive replaces an earlier one with the
same target and field names. An event is let through when the first directive that applies to
it (its target is a prefix of the event's target, and the event has its fields) admits the
event's level. An event that no directive applies to is dropped.

Reading a filter fails as a whole when one of its directives does not read; the empty text is
the filter with no directives.

Main definitions: `LogFilter`, `LogFilter.read?`, `LogFilter.admits`.
-/

namespace PinAudit

/-- **A directive that applies outside spans.** Events of targets starting with `target` (every
target when there is none) that carry all of `fields` are let through up to `ceiling`, a level
rank (`0` lets nothing through). -/
structure Directive where
  target : Option String := none
  fields : List String := []
  ceiling : Nat
  deriving DecidableEq, Repr

/-- **A log filter**, most specific directive first. -/
structure LogFilter where
  directives : List Directive
  deriving DecidableEq, Repr

namespace Directive

/-- The value of a text made of decimal digits after an optional `+`. -/
def decimal? (s : String) : Option Nat :=
  let digits := match s.toList with
    | '+' :: rest => rest
    | cs => cs
  if !digits.isEmpty && digits.all Char.isDigit then
    some (digits.foldl (fun n c => 10 * n + (c.toNat - '0'.toNat)) 0)
  else none

/-- The rank of a level name, in any case. -/
def namedRank? (s : String) : Option Nat :=
  match s.toLower with
  | "off" => some 0
  | "error" => some 1
  | "warn" => some 2
  | "info" => some 3
  | "debug" => some 4
  | "trace" => some 5
  | _ => none

/-- The rank a text stands for when read as a level: a number up to `5`, or a level name. -/
def rank? (s : String) : Option Nat :=
  match (decimal? s).filter (· ≤ 5) with
  | some n => some n
  | none => namedRank? s

/-- Characters a target is made of: word characters, white space, `.`, `:` and `-`. -/
def isTargetChar (c : Char) : Bool :=
  Text.isWordChar c || Text.isUnicodeSpace c || c == '.' || c == ':' || c == '-'

/-- **The parts of a directive**: the target text (perhaps empty), the text between the brackets
of a span when there are any, and the level text after `=` when there is one. -/
structure Parts where
  target : String
  span : Option (List Char)
  level : Option String
  deriving DecidableEq, Repr

/-- Cut a directive into its parts: a run of target characters, then perhaps a span in brackets
(up to the first `]`), then perhaps `=` and a level; nothing else may follow. A directive names
a target or a span, or both. -/
def parts? (cs : List Char) : Option Parts := do
  let target := cs.takeWhile isTargetChar
  let rest := cs.drop target.length
  let (span, rest) ← match rest with
    | '[' :: more =>
      let inner := more.takeWhile (· != ']')
      match more.drop inner.length with
      | ']' :: after => some (some inner, after)
      | _ => none
    | _ => some (none, rest)
  let level ← match rest with
    | [] => some none
    | '=' :: text => some (some (String.ofList text))
    | _ => none
  if target.isEmpty && span.isNone then none
  else some ⟨String.ofList target, span, level⟩

/-- The ceiling a level text sets: `trace` when there is none or it is empty, else the rank it
reads as. -/
def ceiling? : Option String → Option Nat
  | none => some 5
  | some "" => some 5
  | some text => rank? text

/-- The parts of the text between a span's brackets: the text before a `{`, and the field list
between that `{` and the `}` that closes the text, when there is one. -/
def spanParts? (inner : List Char) : Option (String × Option String) :=
  let name := inner.takeWhile (· != '{')
  match inner.drop name.length with
  | [] => some (String.ofList name, none)
  | _ :: more =>
    let body := more.takeWhile (· != '}')
    match more.drop body.length with
    | ['}'] => some (String.ofList name, some (String.ofList body))
    | _ => none

/-- **The fields of a field list**, split at commas: each field's name, and whether it matches a
value (the text after its first `=`). A value must read as a pattern. -/
def fields? (list : String) : Option (List (String × Bool)) :=
  (list.splitOn ",").mapM fun field =>
    match field.splitOn "=" with
    | name :: value :: _ => if Pattern.valueReads value then some (name, true) else none
    | name :: [] => some (name, false)
    | [] => some (field, false)

end Directive

/-- What a directive reads as: one that applies outside spans, or one that only applies inside
them. -/
inductive ReadDirective where
  | outside (d : Directive)
  | insideSpans
  deriving DecidableEq, Repr

namespace Directive

/-- **Read one directive.** A target alone that reads as a level is a level for every event; a
target that reads as a level beside a span or a level stands for no target. Brackets name a
span unless they hold only a field list; a directive that names a span or matches a field's
value only applies inside spans. -/
def read? (text : String) : Option ReadDirective := do
  let p ← parts? text.toList
  let targetRank := if p.target.isEmpty then none else rank? p.target
  match p.span, p.level, targetRank with
  | none, none, some r => pure (.outside { ceiling := r })
  | _, _, _ =>
    let ceiling ← ceiling? p.level
    let target := if p.target.isEmpty || targetRank.isSome then none else some p.target
    match p.span with
    | none => pure (.outside { target, ceiling })
    | some inner =>
      let (name, list) ← spanParts? inner
      let fields ← (list.map fields?).getD (some [])
      if (!name.isEmpty || list.isNone) || fields.any (·.2) then pure .insideSpans
      else pure (.outside { target, fields := fields.map (·.1), ceiling })

/-- How specific a directive is, compared with another: `lt` when it is *more* specific, so that
the most specific comes first. -/
def order (a b : Directive) : Ordering :=
  let bySpecificity :=
    (compare (a.target.map String.utf8ByteSize) (b.target.map String.utf8ByteSize)).then
      ((compare a.fields.length b.fields.length).then
        ((compare a.target b.target).then (compare a.fields b.fields)))
  bySpecificity.swap

/-- Insert a directive in its place, replacing one with the same target and fields. -/
def insert (d : Directive) : List Directive → List Directive
  | [] => [d]
  | e :: es =>
    match order d e with
    | .lt => d :: e :: es
    | .eq => d :: es
    | .gt => e :: insert d es

/-- Whether a directive applies to an event. -/
def applies (d : Directive) (e : LogEvent) : Bool :=
  (d.target.all fun t => t.isPrefixOf e.target) &&
    d.fields.all fun f => f == "message" || e.fields.any (·.1 == f)

end Directive

namespace LogFilter

/-- **Read a filter text**, or fail when one of its directives does not read. -/
def read? (text : String) : Option LogFilter := do
  let pieces := (text.splitOn ",").filter (!·.isEmpty)
  let read ← pieces.mapM Directive.read?
  let outside := read.filterMap fun
    | .outside d => some d
    | .insideSpans => none
  pure ⟨outside.foldl (fun ds d => Directive.insert d ds) []⟩

/-- **Whether the filter lets an event through.** -/
def admits (f : LogFilter) (e : LogEvent) : Bool :=
  match f.directives.find? (·.applies e) with
  | some d => e.level.rank ≤ d.ceiling
  | none => false

end LogFilter

end PinAudit
