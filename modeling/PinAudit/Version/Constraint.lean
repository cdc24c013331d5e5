import PinAudit.Version.Range
import PinAudit.Log

/-!
# Version constraints

How a dependency asks for its version: a fixed version, one of the floating aliases `LATEST`
and `RELEASE`, a range, or (when read leniently) text that is none of these. A constraint is
read from its trimmed text: a text opening with `[` or `(` is a range, the exact words `LATEST`
and `RELEASE` are aliases, and any other non-blank text is a fixed version. The strict reading
refuses blank text and malformed ranges; the lenient reading keeps such text, untrimmed, as an
unrecognized constraint.

Main definitions: `Constraint.parse`, `Constraint.ofResolved`, `Constraint.readResolved`,
`Constraint.display`.
-/

namespace PinAudit

/-- The floating version aliases. -/
inductive Alias where
  | latest
  | release
  deriving DecidableEq, Repr

/-- The alias as it is written. -/
def Alias.text : Alias → String
  | .latest => "LATEST"
  | .release => "RELEASE"

/-- **A version constraint.** -/
inductive Constraint where
  | fixed (v : Version)
  | alias (a : Alias)
  | range (r : Range)
  /-- Text that is neither a version nor a range, kept as it was given. -/
  | unrecognized (raw : String)
  deriving DecidableEq, Repr

namespace Constraint

/-- **Strict reading** of a constraint. -/
def parse (text : String) : Except Version.ParseError Constraint :=
  match Text.trimChars text.toList with
  | [] => .error .empty
  | trimmed@(c :: _) =>
    if Version.isOpening c then (Range.parse (String.ofList trimmed)).map .range
    else
      let t := String.ofList trimmed
      if t == "LATEST" then .ok (.alias .latest)
      else if t == "RELEASE" then .ok (.alias .release)
      else .ok (.fixed ⟨t⟩)

/-- **Lenient reading**, for versions a resolver hands over: what the strict reading refuses
is kept as an unrecognized constraint carrying the raw text. -/
def ofResolved (text : String) : Constraint :=
  match parse text with
  | .ok c => c
  | .error _ => .unrecognized text

/-- **Lenient reading with its event**: the constraint `ofResolved` reads, after the debug event
logged when the strict reading refuses the text. -/
def readResolved (text : String) : Logged Constraint :=
  match parse text with
  | .ok c => ([], c)
  | .error e =>
    ([{ level := .debug, target := "pinguard_domain::version",
        message := "keeping unparseable version constraint",
        fields := [("constraint", LogEvent.textField text), ("error", e.message)] }],
      .unrecognized text)

/-- The lenient reading with its event reads what the lenient reading reads. -/
theorem readResolved_snd (text : String) : (readResolved text).2 = ofResolved text := by
  unfold readResolved ofResolved
  split <;> rfl

/-- The constraint as it is displayed: the version's text, the alias, the range's trimmed text
or the raw text. -/
def display : Constraint → String
  | .fixed v => v.text
  | .alias a => a.text
  | .range r => r.text
  | .unrecognized raw => raw

/-- The fixed version, if the constraint is one. -/
def fixedVersion? : Constraint → Option Version
  | .fixed v => some v
  | _ => none

/-- The range, if the constraint is one. -/
def range? : Constraint → Option Range
  | .range r => some r
  | _ => none

end Constraint

end PinAudit
