import PinAudit.Files.Path

/-!
# File systems

What the program asks of a file system, as a class over the monad it runs in: the status of a
path (following symbolic links, or not for the last one), its real path, the names in a
directory, reading and writing a text file, making a directory, and whether names that differ
only in case are different. Relative paths are taken
from the working directory. Failures are the operating system's (`IoError`).

On top of these: whether a path exists, and making a directory with its missing parents.
-/

namespace PinAudit

/-- **A failed file operation**, as the operating system reports it. -/
inductive IoError where
  | notFound
  | notADirectory
  | isADirectory
  | alreadyExists
  | tooManyLinks
  | nameTooLong
  | nulInName
  | other (message : String)
  deriving DecidableEq, Repr

/-- The failure as it is printed. -/
def IoError.message : IoError → String
  | .notFound => "No such file or directory (os error 2)"
  | .notADirectory => "Not a directory (os error 20)"
  | .isADirectory => "Is a directory (os error 21)"
  | .alreadyExists => "File exists (os error 17)"
  | .tooManyLinks => "Too many levels of symbolic links (os error 40)"
  | .nameTooLong => "File name too long (os error 36)"
  | .nulInName => "file name contained an unexpected NUL byte"
  | .other m => m

/-- What a path leads to. -/
inductive FileKind where
  | file
  | directory
  | symlink
  deriving DecidableEq, Repr

/-- **What the program asks of a file system.** -/
class FileSystem (m : Type → Type) where
  /-- What a path leads to, following symbolic links. -/
  status : String → m (Except IoError FileKind)
  /-- What a path leads to, not following a symbolic link at its end. -/
  linkStatus : String → m (Except IoError FileKind)
  /-- The absolute path without symbolic links, `.` or `..`. -/
  realPath : String → m (Except IoError String)
  /-- The names in a directory, in no particular order. -/
  listDir : String → m (Except IoError (List String))
  readText : String → m (Except IoError String)
  /-- Write a file, creating it or replacing its text. -/
  writeText : String → String → m (Except IoError Unit)
  /-- Make one directory, whose parent must exist. -/
  makeDir : String → m (Except IoError Unit)
  /-- Whether names that differ only in case name different files. -/
  caseSensitive : m Bool

namespace FileSystem

variable {m : Type → Type} [Monad m] [FileSystem m]

/-- **Whether a path exists**, following symbolic links; any failure counts as no. -/
def pathExists (p : String) : m Bool := do
  match ← status p with
  | .ok _ => pure true
  | .error _ => pure false

/-- Whether a path is a directory, following symbolic links. -/
def isDirectory (p : String) : m Bool := do
  match ← status p with
  | .ok .directory => pure true
  | _ => pure false

/-- Whether a path is a symbolic link. -/
def isSymlink (p : String) : m Bool := do
  match ← linkStatus p with
  | .ok .symlink => pure true
  | _ => pure false

/-- Make a directory and its missing parents; an existing directory is fine. `fuel` bounds
the parents made. -/
def makeDirsFrom : Nat → String → m (Except IoError Unit)
  | 0, _ => pure (.error (.other "failed to create whole tree"))
  | fuel + 1, p => do
    if p.isEmpty then return .ok ()
    match ← makeDir p with
    | .ok () => pure (.ok ())
    | .error .notFound =>
      match Path.parent? p with
      | none => pure (.error (.other "failed to create whole tree"))
      | some q =>
        match ← makeDirsFrom fuel q with
        | .error e => pure (.error e)
        | .ok () =>
          match ← makeDir p with
          | .ok () => pure (.ok ())
          | .error e => if ← isDirectory p then pure (.ok ()) else pure (.error e)
    | .error e => if ← isDirectory p then pure (.ok ()) else pure (.error e)

/-- **Make a directory and its missing parents.** -/
def makeDirs (p : String) : m (Except IoError Unit) :=
  makeDirsFrom ((Path.components p).length + 2) p

end FileSystem

end PinAudit
