import PinAudit.Files.System

/-!
# A file system as a value

A whole file system held as a value: a tree of directories, text files and symbolic links, and
a working directory. It answers the requests of `FileSystem` as a POSIX system does:

- A path is walked from the root (absolute) or the working directory (relative), one name at a
  time; `.` stays, `..` goes up (and stays at the root), and empty names are skipped.
- Every name but the last must lead to a directory (else *not a directory*), and must exist
  (else *no such file or directory*). A symbolic link met on the way is replaced by its target,
  taken from the directory that holds the link; at most 40 links are followed in one walk
  (else *too many levels of symbolic links*).
- A link at the end is followed unless the request asks for the link itself; a path ending
  with `/` must lead to a directory, and then a link at its end is always followed.
- A name longer than 255 bytes, or a path longer than 4095, is *too long*; a path holding the
  NUL character is refused before any walk.

Main definitions: `Inode`, `World`, `World.locate`, and the `FileSystem` instance of
`StateM World`.
-/

namespace PinAudit

/-- **An entry of a file system.** -/
inductive Inode where
  | file (text : String)
  | dir (items : List (String × Inode))
  | link (target : String)
  deriving Repr, Inhabited

namespace Inode

mutual

/-- The entry at a path of names below this one. -/
def get? : Inode → List String → Option Inode
  | n, [] => some n
  | .dir items, name :: rest => getIn items name rest
  | .file _, _ :: _ => none
  | .link _, _ :: _ => none

/-- The entry at a path below the entry `name` of a directory's items. -/
def getIn : List (String × Inode) → String → List String → Option Inode
  | [], _, _ => none
  | (k, n) :: more, name, rest => if k == name then n.get? rest else getIn more name rest

end

mutual

/-- Put an entry at a path of names below this one; directories on the way must exist. -/
def put : Inode → List String → Inode → Inode
  | _, [], new => new
  | .dir items, name :: rest, new => .dir (putIn items name rest new)
  | n, _ :: _, _ => n

/-- Put an entry below the item `name` of a directory, adding the item at the end when it is
the last name and missing. -/
def putIn : List (String × Inode) → String → List String → Inode → List (String × Inode)
  | [], name, rest, new => if rest.isEmpty then [(name, new)] else []
  | (k, n) :: more, name, rest, new =>
    if k == name then (k, n.put rest new) :: more else (k, n) :: putIn more name rest new

end

/-- The kind of an entry. -/
def kind : Inode → FileKind
  | .file _ => .file
  | .dir _ => .directory
  | .link _ => .symlink

end Inode

/-- **A file system**: its root directory and the working directory's names from the root. -/
structure World where
  root : Inode := .dir []
  cwd : List String := []
  deriving Repr, Inhabited

/-- A path text read for a walk: whether it is absolute, its names (with `.` and `..`), and
whether it ends with `/`. -/
structure Walk where
  absolute : Bool
  names : List String
  trailingSlash : Bool

/-- Read a path text for a walk. -/
def Walk.ofString (p : String) : Walk :=
  ⟨Path.isAbsolute p, (p.splitOn "/").filter (!·.isEmpty), p.endsWith "/"⟩

/-- Links followed at most in one walk. -/
def maxLinks : Nat := 40

namespace World

/-- The entry at a physical path. -/
def get? (w : World) (names : List String) : Option Inode := w.root.get? names

/-- **Walk names** from the directory `cur` (physical names from the root). `follow` tells
whether a link at the end is followed, `dirOnly` whether the end must be a directory. The
answer is the physical path of the end. -/
def walk (w : World) : Nat → Nat → List String → List String → Bool → Bool →
    Except IoError (List String)
  | 0, _, _, _, _, _ => .error .tooManyLinks
  | fuel + 1, links, cur, names, follow, dirOnly =>
    match names with
    | [] => .ok cur
    | name :: rest =>
      if name == "." then w.walk fuel links cur rest follow dirOnly
      else if name == ".." then w.walk fuel links cur.dropLast rest follow dirOnly
      else if name.utf8ByteSize > 255 then .error .nameTooLong
      else
        match w.get? (cur ++ [name]) with
        | none => .error .notFound
        | some (.file _) =>
          if rest.isEmpty && !dirOnly then .ok (cur ++ [name]) else .error .notADirectory
        | some (.dir _) => w.walk fuel links (cur ++ [name]) rest follow dirOnly
        | some (.link target) =>
          if rest.isEmpty && !follow && !dirOnly then .ok (cur ++ [name])
          else if links == 0 then .error .tooManyLinks
          else
            let t := Walk.ofString target
            w.walk fuel (links - 1) (if t.absolute then [] else cur) (t.names ++ rest) follow
              (dirOnly || (t.trailingSlash && rest.isEmpty))

/-- Refuse a path text that no walk may take. -/
def checkPath (p : String) : Except IoError Walk :=
  if p.toList.contains (Char.ofNat 0) then .error .nulInName
  else if p.isEmpty then .error .notFound
  else if p.utf8ByteSize > 4095 then .error .nameTooLong
  else .ok (Walk.ofString p)

/-- The steps a walk may take: every name and every name of every link followed. -/
def walkFuel (p : Walk) : Nat := p.names.length + (maxLinks + 1) * 4096

/-- **The physical path** a path text leads to. -/
def locate (w : World) (p : String) (follow : Bool) : Except IoError (List String) := do
  let t ← checkPath p
  w.walk (walkFuel t) maxLinks (if t.absolute then [] else w.cwd) t.names follow t.trailingSlash

/-- The text of a physical path. -/
def render (names : List String) : String := "/" ++ "/".intercalate names

/-- What a path leads to. -/
def statusOf (w : World) (p : String) (follow : Bool) : Except IoError FileKind := do
  let at_ ← w.locate p follow
  match w.get? at_ with
  | some n => pure n.kind
  | none => throw .notFound

/-- The names in a directory. -/
def listDirOf (w : World) (p : String) : Except IoError (List String) := do
  match w.get? (← w.locate p true) with
  | some (.dir items) => pure (items.map Prod.fst)
  | some _ => throw .notADirectory
  | none => throw .notFound

/-- The text of a file. -/
def readTextOf (w : World) (p : String) : Except IoError String := do
  match w.get? (← w.locate p true) with
  | some (.file text) => pure text
  | some (.dir _) => throw .isADirectory
  | _ => throw .notFound

/-- The directory holding the last name of a path, and that name. -/
def parentAndName (w : World) (t : Walk) : Except IoError (List String × Option String) := do
  let base := if t.absolute then [] else w.cwd
  match t.names.reverse with
  | [] => pure (base, none)
  | last :: before =>
    let dir ← w.walk (walkFuel t) maxLinks base before.reverse true true
    if last == "." || last == ".." then pure (dir, none) else pure (dir, some last)

/-- Write a file named `name` in the directory `dir`, following a link found there. -/
def writeAt (w : World) : Nat → List String → String → Bool → String → Except IoError World
  | 0, _, _, _, _ => .error .tooManyLinks
  | links + 1, dir, name, trailingSlash, text =>
    if name.utf8ByteSize > 255 then .error .nameTooLong
    else
      match w.get? (dir ++ [name]) with
      | none =>
        if trailingSlash then .error .isADirectory
        else .ok { w with root := w.root.put (dir ++ [name]) (.file text) }
      | some (.file _) =>
        if trailingSlash then .error .notADirectory
        else .ok { w with root := w.root.put (dir ++ [name]) (.file text) }
      | some (.dir _) => .error .isADirectory
      | some (.link target) => do
        let t := Walk.ofString target
        let (tdir, tname) ← { w with cwd := dir }.parentAndName t
        match tname with
        | none => .error .isADirectory
        | some n => w.writeAt links tdir n (trailingSlash || t.trailingSlash) text

/-- Write a file. -/
def writeTextOf (w : World) (p : String) (text : String) : Except IoError World := do
  let t ← checkPath p
  match ← w.parentAndName t with
  | (_, none) => throw .isADirectory
  | (dir, some name) => w.writeAt (maxLinks + 1) dir name t.trailingSlash text

/-- Make one directory. -/
def makeDirOf (w : World) (p : String) : Except IoError World := do
  let t ← checkPath p
  match ← w.parentAndName t with
  | (_, none) => throw .alreadyExists
  | (dir, some name) =>
    if name.utf8ByteSize > 255 then throw .nameTooLong
    else
      match w.get? (dir ++ [name]) with
      | some _ => throw .alreadyExists
      | none => pure { w with root := w.root.put (dir ++ [name]) (.dir []) }

/-- Make a symbolic link at a path; the path must not exist and its parent must. -/
def makeLinkOf (w : World) (p : String) (target : String) : Except IoError World := do
  let t ← checkPath p
  match ← w.parentAndName t with
  | (_, none) => throw .alreadyExists
  | (dir, some name) =>
    match w.get? (dir ++ [name]) with
    | some _ => throw .alreadyExists
    | none => pure { w with root := w.root.put (dir ++ [name]) (.link target) }

/-- **A world holding one empty directory** at a physical path, which is also the working
directory. -/
def rooted (names : List String) : World :=
  let chain := names.foldr (fun name inner => Inode.dir [(name, inner)]) (Inode.dir [])
  { root := chain, cwd := names }

/-- The files below a physical path, each with its path relative to it (links are not
followed), in the order of the directories' listings. -/
def filesBelow (w : World) (names : List String) : List (String × String) :=
  match w.get? names with
  | some n => go "" n
  | none => []
where
  go (pre : String) : Inode → List (String × String)
    | .file text => [(pre, text)]
    | .link _ => []
    | .dir items => goItems pre items
  goItems (pre : String) : List (String × Inode) → List (String × String)
    | [] => []
    | (k, n) :: more => go (if pre.isEmpty then k else pre ++ "/" ++ k) n ++ goItems pre more

/-- **The files below a physical path that `after` made or rewrote**: those it has that
`before` did not have with the same text, with their relative paths. -/
def changedFiles (before after : World) (names : List String) : List (String × String) :=
  let old := before.filesBelow names
  (after.filesBelow names).filter fun (p, text) => old.lookup p != some text

/-- Apply a change to the world, keeping it unchanged when the change fails. -/
def change (f : World → Except IoError World) : StateM World (Except IoError Unit) := do
  match f (← get) with
  | .ok w' => set w'; pure (.ok ())
  | .error e => pure (.error e)

end World

/-- A world answers file system requests, its writes changing it; its names are compared
exactly. -/
instance : FileSystem (StateM World) where
  status p := do pure ((← get).statusOf p true)
  linkStatus p := do pure ((← get).statusOf p false)
  realPath p := do pure (World.render <$> (← get).locate p true)
  listDir p := do pure ((← get).listDirOf p)
  readText p := do pure ((← get).readTextOf p)
  writeText p text := World.change fun w => w.writeTextOf p text
  makeDir p := World.change fun w => w.makeDirOf p
  caseSensitive := pure true

end PinAudit
