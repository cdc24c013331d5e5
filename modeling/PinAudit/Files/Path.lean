/-!
# Paths as text

Paths are texts split by `/`. Read as a list of *components*, a path has an optional root (a
leading `/`), an optional leading `.` (only when the path is `.` or starts with `./`), and then
its named parts and `..` parts; empty parts (from repeated or trailing slashes) and `.` parts
elsewhere are not components. Two paths are the same path when their components are equal, so
`a//b/./c/` and `a/b/c` are the same path.

The parent of a path and its last name are read from its components, but the parent keeps the
text of the path up to its last component, without trailing slashes or `.` parts: the parent of
`a/./b/c` is `a/./b`.

Main definitions: `Path.components`, `Path.same`, `Path.parent?`, `Path.fileName?`,
`Path.join`, `Path.stripPrefix?`.
-/

namespace PinAudit

/-- A component of a path. -/
inductive Path.Component where
  | root
  | current
  | up
  | named (name : String)
  deriving DecidableEq, Repr

namespace Path

/-- A path split into its leading part (`/`, `.` or nothing) and the pieces of the rest. -/
structure Split where
  /-- `"/"`, `"."` or `""`. -/
  lead : String
  /-- The rest of the text split at every `/`. -/
  pieces : List String

/-- Whether a path is absolute. -/
def isAbsolute (p : String) : Bool := p.startsWith "/"

/-- **Split a path** into its leading part and pieces. -/
def split (p : String) : Split :=
  if isAbsolute p then ⟨"/", (String.ofList (p.toList.drop 1)).splitOn "/"⟩
  else if p == "." || p.startsWith "./" then ⟨".", (String.ofList (p.toList.drop 1)).splitOn "/"⟩
  else ⟨"", p.splitOn "/"⟩

/-- A piece that is not a component. -/
def isFiller (piece : String) : Bool := piece.isEmpty || piece == "."

/-- Pieces without their filler at the end. -/
def trimEnd (pieces : List String) : List String :=
  (pieces.reverse.dropWhile isFiller).reverse

/-- The text of a leading part and pieces. -/
def Split.text (s : Split) : String :=
  match s.pieces with
  | [] => s.lead
  | ps => s.lead ++ "/".intercalate ps

/-- The component of a piece, if it is one. -/
def pieceComponent (piece : String) : Option Component :=
  if isFiller piece then none
  else if piece == ".." then some .up
  else some (.named piece)

/-- **The components of a path.** -/
def components (p : String) : List Component :=
  let s := split p
  let lead := if s.lead == "/" then [Component.root]
    else if s.lead == "." then [Component.current] else []
  lead ++ s.pieces.filterMap pieceComponent

/-- **The same path**: equal components. -/
def same (a b : String) : Bool := components a == components b

/-- **The parent of a path**: none for a root or an empty path; the empty path for a single
relative component. -/
def parent? (p : String) : Option String :=
  let s := split p
  match (trimEnd s.pieces).reverse with
  | [] => if s.lead == "." then some "" else none
  | _ :: rest =>
    let kept := trimEnd rest.reverse
    if s.lead.isEmpty then some ("/".intercalate kept)
    else some (Split.text ⟨s.lead, kept⟩)

/-- **The last name of a path**, unless it ends in a root, `.` or `..`. -/
def fileName? (p : String) : Option String :=
  match (trimEnd (split p).pieces).reverse with
  | last :: _ => if last == ".." then none else some last
  | [] => none

/-- **Join a path to a base**: an absolute path replaces the base; otherwise a `/` is put
between them unless the base is empty or already ends with one. -/
def join (base p : String) : String :=
  if isAbsolute p then p
  else if base.isEmpty || base.endsWith "/" then base ++ p
  else base ++ "/" ++ p

/-- Drop the leading pieces of a path that match the components `cs`, skipping filler;
`none` when they do not match. -/
def dropComponents : List Component → List String → Option (List String)
  | [], ps => some ps
  | _ :: _, [] => none
  | c :: cs, p :: ps =>
    if isFiller p then dropComponents (c :: cs) ps
    else if pieceComponent p == some c then dropComponents cs ps
    else none

/-- **A path relative to a base** of which it is an extension, component by component; the
rest keeps its text, without filler at either end. -/
def stripPrefix? (p base : String) : Option String :=
  let s := split p
  let b := split base
  if s.lead != b.lead then none
  else
    let baseParts := b.pieces.filterMap pieceComponent
    (dropComponents baseParts s.pieces).map fun rest =>
      "/".intercalate ((trimEnd rest).dropWhile isFiller)

end Path

/-- **A path inside a repository**, as reports show it: backslashes become slashes, leading
`./` are dropped, and the empty path is `.`. -/
structure RepoPath where
  text : String
  deriving DecidableEq, Repr

namespace RepoPath

/-- Drop leading `./`. -/
def dropDotSlash : List Char → List Char
  | '.' :: '/' :: rest => dropDotSlash rest
  | cs => cs

/-- **A repository path** from a text. -/
def ofString (s : String) : RepoPath :=
  let cs := dropDotSlash (s.toList.map fun c => if c == '\\' then '/' else c)
  ⟨if cs.isEmpty then "." else String.ofList cs⟩

/-- A path relative to a root, or the path itself when it is not inside the root. -/
def relativeTo (p root : String) : RepoPath :=
  ofString ((Path.stripPrefix? p root).getD p)

/-- The repository root itself. -/
def current : RepoPath := ofString "."

end RepoPath

end PinAudit
