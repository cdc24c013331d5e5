import PinAudit.Audit.Auditor
import PinAudit.Files.System

/-!
# Dependency trees from files

A tree file holds a dependency tree document. Resolving from it reads the file, reads the
document, checks the root against the one expected (same group, artifact and version text; type
and classifier are not compared), and prunes the tree as the request selects. Each step that
fails names the file: `read dependency tree <path>`, `parse dependency tree <path>`, or
`dependency tree <path> is rooted at <actual>, expected <expected>`.

Main definitions: `treeFileCollector`, `resolveTreeFile`.
-/

namespace PinAudit

/-- Where tree files log. -/
def treeFileTarget : String := "pinguard_repo::tree"

/-- Whether a tree's root is the expected one: same artifact and the same version text. -/
def rootMatches (actual expected : Coordinate) : Bool :=
  actual.sameArtifact expected && actual.version == expected.version

/-- **Resolve from a tree file** at `path`, given what reading it gave, its entries read by the
deserializer `deserialize`. -/
def treeFileCollector (deserialize : String → Except Json.Error Document.Entry) (path : String)
    (contents : Except IoError String) (request : CollectRequest) : Logged (Except Failure Node) :=
  match contents with
  | .error e => ([], .error ⟨["read dependency tree " ++ path, e.message]⟩)
  | .ok text =>
    match Node.readDocumentWith deserialize text with
    | (log, .error f) => (log, .error (f.context ("parse dependency tree " ++ path)))
    | (log, .ok tree) =>
      match request.root.filter fun expected => !rootMatches tree.coordinate expected with
      | some expected =>
        (log, .error (.of ("dependency tree " ++ path ++ " is rooted at " ++
          tree.coordinate.display ++ ", expected " ++ expected.display)))
      | none =>
        let pruned := request.selector.prune tree
        (log ++ [loaded pruned], .ok pruned)
where
  /-- The event of a tree handed over. -/
  loaded (tree : Node) : LogEvent :=
    { level := .debug, target := treeFileTarget,
      message := "Loaded dependency tree for " ++ tree.coordinate.display,
      fields := [("nodes", toString tree.descendantCount)] }

/-- **Read a tree file and resolve from it.** -/
def resolveTreeFile {m : Type → Type} [Monad m] [FileSystem m]
    (deserialize : String → Except Json.Error Document.Entry) (path : String)
    (request : CollectRequest) : m (Logged (Except Failure Node)) := do
  pure (treeFileCollector deserialize path (← FileSystem.readText path) request)

end PinAudit
