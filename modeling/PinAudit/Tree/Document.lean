import PinAudit.Json.Decode
import PinAudit.Tree.Node
import PinAudit.Failure
import PinAudit.Text.Blank
import PinAudit.Log

/-!
# Tree documents

A dependency tree is exchanged as a JSON document: each node is an object with `groupId`,
`artifactId` and `version` (required), `type`, `classifier` and `scope` (strings or `null`),
`optional` and `children`. Unknown fields are skipped; a node may also be written as an array
of its eight fields in that order, the last five optional.

Reading a document has three steps, and the first error wins:
1. Brackets may nest at most 512 deep (two per tree level, so 256 levels); brackets inside
   strings do not count, and the scan stops at the first bracket past the limit.
2. The text is read as a document of entries, with the position of the first error.
3. The entries become nodes: a node whose group or artifact is blank is refused; a blank or
   absent type is `jar`; a blank or absent scope is `compile`, except at the root, whose scope
   is kept as given.

The second step is the JSON library's, with the reader the serde derive gives the entry:
`Node.readDocumentWith` takes it as a parameter, and the tool runs `Document.read` in its place.

Main definitions: `Document.Entry`, `Document.entry`, `Node.readDocumentWith`, `Node.readDocument`,
`Node.ofDocument`.
-/

namespace PinAudit

namespace Document

/-- Deepest bracket nesting allowed. -/
def maxNesting : Nat := 512

/-- Deepest tree allowed, counting the root as level 1. -/
def maxLevels : Nat := 256

/-- Where a scan for brackets stands: the nesting now, the deepest so far, and whether it is
inside a string, just after a backslash there. -/
structure Scan where
  depth : Nat := 0
  deepest : Nat := 0
  inString : Bool := false
  escaped : Bool := false

/-- One character of the bracket scan. -/
def Scan.step (s : Scan) (c : Char) : Scan :=
  if s.inString then
    if s.escaped then { s with escaped := false }
    else if c == '\\' then { s with escaped := true }
    else if c == '"' then { s with inString := false }
    else s
  else if c == '"' then { s with inString := true }
  else if c == '{' || c == '[' then { s with depth := s.depth + 1, deepest := max s.deepest (s.depth + 1) }
  else if c == '}' || c == ']' then { s with depth := s.depth - 1 }
  else s

/-- **The deepest bracket nesting** of a text, brackets inside strings not counted. A closing
bracket with none open is ignored. -/
def nesting (text : String) : Nat :=
  (text.toList.foldl Scan.step {}).deepest

/-- The deepest nesting seen by the scan of `cs` from `s`, the scan stopped at the first
character that takes it past `limit`. -/
def Scan.deepestWithin (limit : Nat) (s : Scan) : List Char → Nat
  | [] => s.deepest
  | c :: cs =>
    let s' := s.step c
    if s'.deepest > limit then s'.deepest else s'.deepestWithin limit cs

/-- **The deepest bracket nesting, up to a limit**: the bracket scan of the text, stopped as
soon as the nesting passes `limit`. -/
def nestingWithin (text : String) (limit : Nat) : Nat :=
  ({} : Scan).deepestWithin limit text.toList

/-- **An entry of a tree document**: the fields of a node as written. -/
inductive Entry where
  | mk (group artifact version : String) (extension classifier scope : Option String)
      (optional : Bool) (children : List Entry)
  deriving Repr

/-- The fields of an object entry read so far. -/
structure Fields where
  group : Option String := none
  artifact : Option String := none
  version : Option String := none
  extension : Option (Option String) := none
  classifier : Option (Option String) := none
  scope : Option (Option String) := none
  optional : Option Bool := none
  children : Option (List Entry) := none

/-- What an entry is expected to be, in errors. -/
def expected : String := "struct TreeNodeDto"

/-- The entry of complete fields, or the first required field that is missing. -/
def Fields.finish (f : Fields) : Except String Entry :=
  match f.group, f.artifact, f.version with
  | none, _, _ => .error (Json.missingField "groupId")
  | _, none, _ => .error (Json.missingField "artifactId")
  | _, _, none => .error (Json.missingField "version")
  | some g, some a, some v =>
    .ok (.mk g a v f.extension.join f.classifier.join f.scope.join (f.optional.getD false)
      (f.children.getD []))

open Json

/-- Read a field's value unless the field was given before. -/
def once {α : Type} (name : String) (seen : Bool) (read : Reader α) :
    Reader (Except String α) := do
  if seen then pure (.error (duplicateField name))
  else colon; pure (.ok (← read))

mutual

/-- **An entry**, as an object or an array. `fuel` bounds the nesting of reads. -/
def entry : Nat → Reader Entry
  | 0 => failNext (.malformed .recursionLimit)
  | fuel + 1 => readStruct expected (entryItems fuel) (entryFields fuel {} true)

/-- The fields of an entry written as an array, in order. -/
def entryItems : Nat → Reader (Except String Entry)
  | 0 => failNext (.malformed .recursionLimit)
  | fuel + 1 => do
    let length (n : Nat) : String := invalidLength n (expected ++ " with 8 elements")
    match ← nextField true readString with
    | none => pure (.error (length 0))
    | some g =>
    match ← nextField false readString with
    | none => pure (.error (length 1))
    | some a =>
    match ← nextField false readString with
    | none => pure (.error (length 2))
    | some v =>
    let t ← nextField false readOptString
    let c ← nextField false readOptString
    let s ← nextField false readOptString
    let o ← nextField false readBool
    let cs ← nextField false (children fuel)
    pure (.ok (.mk g a v t.join c.join s.join (o.getD false) (cs.getD [])))

/-- The fields of an entry written as an object, up to its closing brace (not read). -/
def entryFields : Nat → Fields → Bool → Reader (Except String Entry)
  | 0, _, _ => failNext (.malformed .recursionLimit)
  | fuel + 1, f, first => do
    match ← nextKey first with
    | none => pure f.finish
    | some "groupId" =>
      match ← once "groupId" f.group.isSome readString with
      | .ok v => entryFields fuel { f with group := some v } false
      | .error m => pure (.error m)
    | some "artifactId" =>
      match ← once "artifactId" f.artifact.isSome readString with
      | .ok v => entryFields fuel { f with artifact := some v } false
      | .error m => pure (.error m)
    | some "version" =>
      match ← once "version" f.version.isSome readString with
      | .ok v => entryFields fuel { f with version := some v } false
      | .error m => pure (.error m)
    | some "type" =>
      match ← once "type" f.extension.isSome readOptString with
      | .ok v => entryFields fuel { f with extension := some v } false
      | .error m => pure (.error m)
    | some "classifier" =>
      match ← once "classifier" f.classifier.isSome readOptString with
      | .ok v => entryFields fuel { f with classifier := some v } false
      | .error m => pure (.error m)
    | some "scope" =>
      match ← once "scope" f.scope.isSome readOptString with
      | .ok v => entryFields fuel { f with scope := some v } false
      | .error m => pure (.error m)
    | some "optional" =>
      match ← once "optional" f.optional.isSome readBool with
      | .ok v => entryFields fuel { f with optional := some v } false
      | .error m => pure (.error m)
    | some "children" =>
      match ← once "children" f.children.isSome (children fuel) with
      | .ok v => entryFields fuel { f with children := some v } false
      | .error m => pure (.error m)
    | some _ =>
      colon
      skipValue ((← get).rest.length + 1)
      entryFields fuel f false

/-- The children of an entry: an array of entries. -/
def children : Nat → Reader (List Entry)
  | 0 => failNext (.malformed .recursionLimit)
  | fuel + 1 => do
    match ← skipWs with
    | none => failNext (.malformed .eofValue)
    | some '[' =>
      bump
      let items ← readItems (entry fuel) ((← get).rest.length + 1) true []
      closeArray
      pure items
    | some _ => refuse "a sequence"

end

/-- **Read a document** of entries: one entry, and nothing but whitespace after it. -/
def read (text : String) : Except Json.Error Entry := do
  let cur := Cursor.start text
  let whole : Reader Entry := do
    let e ← entry (2 * cur.rest.length + 8)
    match ← skipWs with
    | some _ => failNext (.malformed .trailingCharacters)
    | none => pure e
  let (e, _) ← whole.run cur
  pure e

/-- A text that is not blank. -/
def present (value : Option String) : Option String :=
  value.filter fun v => !Text.allBlank v

/-- The event logged when a node's version text is kept as an unrecognized constraint. -/
def constraintNote (version : String) : List LogEvent := (Constraint.readResolved version).1

mutual

/-- **The node of an entry**; `root` tells whether it is the tree's root. A node is built
after its children, and each node built logs `constraintNote`; building stops at the first
refused entry. -/
def Entry.convert (root : Bool) : Entry → Logged (Except String Node)
  | .mk g a v t c s o cs =>
    if Text.allBlank g || Text.allBlank a then
      ([], .error ("tree node '" ++ g ++ ":" ++ a ++ ":" ++ v ++
        "' is missing groupId or artifactId"))
    else
      let coordinate : Coordinate := ⟨g, a, (present t).getD defaultExtension, c.getD "", v⟩
      let scope := if root then s.getD "" else (present s).getD "compile"
      match Entry.convertAll cs with
      | (log, .error m) => (log, .error m)
      | (log, .ok nodes) => (log ++ constraintNote v, .ok (.node ⟨coordinate, scope, o⟩ nodes))

/-- The nodes of child entries, in order; the first refused one stops the building. -/
def Entry.convertAll : List Entry → Logged (Except String (List Node))
  | [] => ([], .ok [])
  | e :: es =>
    match e.convert false with
    | (log, .error m) => (log, .error m)
    | (log, .ok n) =>
      let (log', rest) := Entry.convertAll es
      (log ++ log', rest.map (n :: ·))

end

end Document

/-- **Read a tree document** into its root node, with the events logged while building it,
the entries deserialized by `deserialize`: the JSON reader with its recursion limit off, driving
the reader the serde derive gives the entry. -/
def Node.readDocumentWith (deserialize : String → Except Json.Error Document.Entry)
    (text : String) : Logged (Except Failure Node) :=
  if Document.nestingWithin text Document.maxNesting > Document.maxNesting then
    ([], .error (.of ("dependency tree is nested deeper than " ++ toString Document.maxLevels ++
      " levels")))
  else
    match deserialize text with
    | .error e => ([], .error ⟨["invalid dependency tree document", e.message]⟩)
    | .ok e =>
      match e.convert true with
      | (log, .ok n) => (log, .ok n)
      | (log, .error m) => (log, .error (.of m))

/-- **Read a tree document** into its root node, the entries deserialized by `deserialize`. -/
def Node.ofDocumentWith (deserialize : String → Except Json.Error Document.Entry)
    (text : String) : Except Failure Node :=
  (Node.readDocumentWith deserialize text).2

/-- **Read a tree document** as the tool does, with the events logged while building it. -/
def Node.readDocument (text : String) : Logged (Except Failure Node) :=
  Node.readDocumentWith Document.read text

/-- **Read a tree document** into its root node, as the tool does. -/
def Node.ofDocument (text : String) : Except Failure Node := Node.ofDocumentWith Document.read text

end PinAudit
