import PinAudit.Artifact.Coordinate
import PinAudit.Artifact.Glob
import PinAudit.Version.Constraint
import PinAudit.Policy
import PinAudit.Log

/-!
# Exclusion patterns

An exclusion pattern is `group[:artifact[:version[:type[:scope[:classifier]]]]]`: up to six
`:`-separated segments, matched in that order against a dependency's group, artifact, version,
type, scope and classifier. Missing trailing segments match anything. A pattern is trimmed
first and must not be blank.

A segment `*` matches anything. In the version position, a segment opening with `[` or `(` is
a version range, matching its own text and every fixed version in the range; a non-empty
segment without glob characters (`*`, `?`, `[`, `{`, `\`) is a version, matching its own text
and every fixed version equivalent to it. Every other segment is a glob, compiled by the glob
library the compiler is given; the tool's is `Glob` (`Segment.toolGlob`).

A version or range segment that meets a value other than its own text reads that value
leniently, which logs a note when the value is not a valid constraint; patterns are tried in
order up to the first that matches, and segments up to the first that refuses.

Main definitions: `Pattern.compile`, `Pattern.check`, `Matcher.compile`, `Matcher.check`.
-/

namespace PinAudit

/-- A compiled segment; a glob segment holds the matcher the glob library compiled. -/
inductive Segment where
  | anything
  | glob (accepts : String → Bool)
  | version (v : Version)
  | range (r : Range)

namespace Segment

/-- Characters that make a version segment a glob. -/
def globMeta : List Char := ['*', '?', '[', '{', '\\']

/-- **The glob library the tool runs**: a glob's text compiled to its matcher, or the reason it
is refused. -/
def toolGlob (text : String) : Except GlobError (String → Bool) :=
  (Glob.compile text).map Glob.accepts

/-- **Compile a segment** at its position (the version is at index 2), glob segments by the glob
library `glob`. -/
def compile (idx : Nat) (part : String)
    (glob : String → Except GlobError (String → Bool) := toolGlob) : Except String Segment :=
  if part == "*" then .ok .anything
  else if idx == 2 && (part.toList.head?.map Version.isOpening).getD false then
    match Range.parse part with
    | .ok r => .ok (.range r)
    | .error e => .error e.message
  else if idx == 2 && !part.isEmpty && !part.toList.any globMeta.contains then
    .ok (.version ⟨part⟩)
  else
    match glob part with
    | .ok g => .ok (.glob g)
    | .error e => .error (e.message part)

/-- **Whether a segment accepts a value**, with the events logged on the way: a version or a
range segment reads a value other than its own text leniently (`Constraint.readResolved`). -/
def check (s : Segment) (value : String) : Logged Bool :=
  match s with
  | .anything => ([], true)
  | .glob g => ([], g value)
  | .version v =>
    if v.text == value then ([], true)
    else
      let (log, c) := Constraint.readResolved value
      (log, match c with
        | .fixed w => w.equiv v
        | _ => false)
  | .range r =>
    if r.text == value then ([], true)
    else
      let (log, c) := Constraint.readResolved value
      (log, match c with
        | .fixed w => r.contains w
        | _ => false)

/-- Whether a segment accepts a value. -/
def accepts (s : Segment) (value : String) : Bool := (s.check value).2

end Segment

/-- **A compiled exclusion pattern.** -/
structure Pattern where
  segments : List Segment

namespace Pattern

/-- The most segments a pattern has. -/
def maxSegments : Nat := 6

/-- Compile the segments of a pattern, numbering them from `idx`. -/
def compileSegments (idx : Nat) (parts : List String)
    (glob : String → Except GlobError (String → Bool) := Segment.toolGlob) :
    Except String (List Segment) :=
  match parts with
  | [] => .ok []
  | p :: ps => do
    let s ← Segment.compile idx p glob
    let rest ← compileSegments (idx + 1) ps glob
    pure (s :: rest)

/-- **Compile a pattern**, glob segments by the glob library `glob`; the error is the reason it
is refused. -/
def compile (pattern : String)
    (glob : String → Except GlobError (String → Bool) := Segment.toolGlob) :
    Except ConfigError Pattern :=
  let trimmed := Text.trim pattern
  let invalid := fun (reason : String) => ConfigError.invalidPattern pattern reason
  if trimmed.isEmpty then .error (invalid "pattern is empty")
  else
    let parts := trimmed.splitOn ":"
    if parts.length > maxSegments then
      .error (invalid ("expected at most 6 ':'-separated segments, found " ++
        toString parts.length))
    else
      match compileSegments 0 parts glob with
      | .ok segs => .ok ⟨segs⟩
      | .error reason => .error (invalid reason)

/-- The values a dependency offers to the six segments, in order. -/
def fields (d : Dependency) : List String :=
  [d.coordinate.group, d.coordinate.artifact, d.coordinate.version, d.coordinate.extension,
    d.scope, d.coordinate.classifier]

/-- Check segments against values in order, stopping at the first that refuses one. -/
def checkAll : List Segment → List String → Logged Bool
  | s :: ss, v :: vs =>
    let (log, ok) := s.check v
    if ok then
      let (more, all) := checkAll ss vs
      (log ++ more, all)
    else (log, false)
  | _, _ => ([], true)

/-- **A pattern matches** a dependency when each of its segments accepts its field; the
segments are tried in order, up to the first that refuses. -/
def check (p : Pattern) (d : Dependency) : Logged Bool := checkAll p.segments (fields d)

/-- Whether a pattern matches a dependency. -/
def accepts (p : Pattern) (d : Dependency) : Bool := (p.check d).2

end Pattern

/-- **Compiled exclusion patterns**; a dependency is excluded when any of them matches. -/
structure Matcher where
  patterns : List Pattern

namespace Matcher

/-- Compile every pattern, glob segments by the glob library `glob`; the first refused one is
the error. -/
def compile (patterns : List String)
    (glob : String → Except GlobError (String → Bool) := Segment.toolGlob) :
    Except ConfigError Matcher :=
  (patterns.mapM (Pattern.compile · glob)).map Matcher.mk

/-- The matcher has no patterns. -/
def isEmpty (m : Matcher) : Bool := m.patterns.isEmpty

/-- Try patterns in order, up to the first that matches. -/
def checkAny (d : Dependency) : List Pattern → Logged Bool
  | [] => ([], false)
  | p :: ps =>
    let (log, ok) := p.check d
    if ok then (log, true)
    else
      let (more, any) := checkAny d ps
      (log ++ more, any)

/-- **Some pattern matches** the dependency, with the events logged on the way. -/
def check (m : Matcher) (d : Dependency) : Logged Bool := checkAny d m.patterns

/-- Whether some pattern matches the dependency. -/
def accepts (m : Matcher) (d : Dependency) : Bool := (m.check d).2

end Matcher

end PinAudit
