import PinAudit.Text.Blank

/-!
# Artifact coordinates and dependencies

A coordinate names an artifact: `group:artifact[:type[:classifier]]:version`. Three parts give
the default type `jar`; four add the type; five add the classifier. The group and the artifact
must not be empty, and an empty type becomes `jar`; the version is kept as written (it is the
constraint text). The text is trimmed before it is cut at `:`.

A dependency is a coordinate with its scope (empty for a tree's root) and whether it is
optional; it is displayed as `coordinate (scope)`, with `?` after an optional scope.

Main definitions: `Coordinate.parse`, `Coordinate.display`, `Dependency.display`.
-/

namespace PinAudit

/-- The type an artifact has when none is given. -/
def defaultExtension : String := "jar"

/-- **Artifact coordinates.** `version` is the version constraint text as requested. -/
structure Coordinate where
  group : String
  artifact : String
  extension : String
  classifier : String
  version : String
  deriving DecidableEq, Repr

namespace Coordinate

/-- Coordinates with the default type and no classifier. -/
def make (group artifact version : String) : Coordinate :=
  ⟨group, artifact, defaultExtension, "", version⟩

/-- The error for a text that is not a coordinate. -/
def errorMessage (text : String) : String :=
  "invalid artifact coordinates '" ++ text ++
    "', expected group:artifact[:type[:classifier]]:version"

/-- **Read coordinates** from `group:artifact[:type[:classifier]]:version`; the error carries
the text as given. -/
def parse (text : String) : Except String Coordinate :=
  let parts := ((Text.trimChars text.toList).splitOn ':').map String.ofList
  let built : Option (String × String × String × String × String) :=
    match parts with
    | [g, a, v] => some (g, a, defaultExtension, "", v)
    | [g, a, t, v] => some (g, a, t, "", v)
    | [g, a, t, c, v] => some (g, a, t, c, v)
    | _ => none
  match built with
  | some (g, a, t, c, v) =>
    if g.isEmpty || a.isEmpty then .error (errorMessage text)
    else .ok ⟨g, a, if t.isEmpty then defaultExtension else t, c, v⟩
  | none => .error (errorMessage text)

/-- **Display**: `group:artifact:type[:classifier]:version`. -/
def display (c : Coordinate) : String :=
  c.group ++ ":" ++ c.artifact ++ ":" ++ c.extension ++
    (if c.classifier.isEmpty then "" else ":" ++ c.classifier) ++ ":" ++ c.version

/-- Same group and artifact; type, classifier and version are ignored. -/
def sameArtifact (c d : Coordinate) : Bool :=
  c.group == d.group && c.artifact == d.artifact

end Coordinate

/-- **A dependency**: coordinates, scope (empty for a root) and whether it is optional. -/
structure Dependency where
  coordinate : Coordinate
  scope : String
  optional : Bool
  deriving DecidableEq, Repr

/-- **Display** of a dependency: `coordinate (scope)`, with `?` after an optional scope. -/
def Dependency.display (d : Dependency) : String :=
  d.coordinate.display ++ " (" ++ d.scope ++ (if d.optional then "?" else "") ++ ")"

end PinAudit
