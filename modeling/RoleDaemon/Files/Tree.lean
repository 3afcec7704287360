import RoleDaemon.Files.Path

/-!
# The File Tree

The daemon looks at files and directories below its working directory and elsewhere.  A tree maps the
places of the file system to what is there; walking a path follows symbolic links, up to a limit, and
fails as the operating system does.

Main definitions:
- `FileTree`: the contents of the file system
- `FileTree.add`: puts an entry at a path
- `FileTree.find`: what a path leads to
- `FileTree.readText`: the text of a file
-/

namespace RoleDaemon

/-! ## §1 Trees -/

/-- What is at a place of the file system. -/
inductive FileEntry where
  | file (bytes : List UInt8)
  /-- A file that the process may not read. -/
  | closedFile
  /-- What is neither a file nor a directory, and the bytes that reading it gives. -/
  | device (bytes : List UInt8)
  | directory
  /-- A directory that the process may not enter. -/
  | closedDirectory
  | link (target : String)
  deriving DecidableEq, Repr

/-- The file system: its entries by the names that lead to them from the root, and the working
    directory. -/
structure FileTree where
  entries : List (List String × FileEntry)
  workingDirectory : List String
  deriving Repr

/-- Why a file cannot be looked at. -/
inductive FileFault where
  | notFound
  | notDirectory
  | isDirectory
  | permissionDenied
  | nameTooLong
  | tooManyLinks
  | nulInName
  | notText
  deriving DecidableEq, Repr

/-- The wording of a file fault. -/
def FileFault.message : FileFault → String
  | .notFound => "No such file or directory (os error 2)"
  | .notDirectory => "Not a directory (os error 20)"
  | .isDirectory => "Is a directory (os error 21)"
  | .permissionDenied => "Permission denied (os error 13)"
  | .nameTooLong => "File name too long (os error 36)"
  | .tooManyLinks => "Too many levels of symbolic links (os error 40)"
  | .nulInName => "file name contained an unexpected NUL byte"
  | .notText => "stream did not contain valid UTF-8"

/-- What a path leads to once all links are followed. -/
inductive FileTarget where
  | file (bytes : List UInt8)
  | closedFile
  | device (bytes : List UInt8)
  | directory
  deriving DecidableEq, Repr

/-- What an entry is when it is not a link. -/
def FileEntry.target? : FileEntry → Option FileTarget
  | .file bytes => some (.file bytes)
  | .closedFile => some .closedFile
  | .device bytes => some (.device bytes)
  | .directory => some .directory
  | .closedDirectory => some .directory
  | .link _ => none

/-- One more than the length of the target of a link. -/
def FileEntry.linkLength : FileEntry → Nat
  | .link target => target.length + 1
  | _ => 0

namespace FileTree

/-- The entry at a place; the root is always a directory. -/
def entry? (tree : FileTree) (place : List String) : Option FileEntry :=
  if place.isEmpty then some .directory
  else (tree.entries.find? (·.1 = place)).map (·.2)

/-- The place that a path names, where no links are in the way. -/
def placeOf (tree : FileTree) (path : String) : List String :=
  (Path.parts path).foldl
    (fun place part =>
      if part = "." then place else if part = ".." then place.dropLast else place ++ [part])
    (if Path.isAbsolute path then [] else tree.workingDirectory)

/-- The tree with a directory at a place where nothing is. -/
def addDirectory (tree : FileTree) (place : List String) : FileTree :=
  if (tree.entry? place).isSome then tree
  else { tree with entries := tree.entries ++ [(place, .directory)] }

/-- The tree with directories on the way to a place, and at the place. -/
def addDirectories (tree : FileTree) (place : List String) : FileTree :=
  ((List.range (place.length + 1)).map place.take).foldl addDirectory tree

/-- The tree with an entry at a path, and directories on the way to it. -/
def add (tree : FileTree) (path : String) (entry : FileEntry) : FileTree :=
  let place := tree.placeOf path
  let parents := tree.addDirectories place.dropLast
  { parents with entries := parents.entries.filter (·.1 ≠ place) ++ [(place, entry)] }

/-! ## §2 Walking -/

/-- The most bytes that a path may take, its terminator included. -/
def maxPath : Nat := 4096

/-- The most bytes that a name may take. -/
def maxName : Nat := 255

/-- The most links that are followed on one walk. -/
def maxLinks : Nat := 40

/-- Walks the remaining parts from a place.  A link is replaced by the parts of its target, which start
    at the root or at the directory of the link.  `fuel` bounds the steps. -/
def walk (tree : FileTree) : (fuel links : Nat) → (place : List String) → (rest : List String) →
    Except FileFault FileTarget
  | 0, _, _, _ => .error .tooManyLinks
  | _ + 1, _, place, [] =>
    match (tree.entry? place).bind FileEntry.target? with
    | some target => .ok target
    | none => .error .notFound
  | fuel + 1, links, place, part :: rest =>
    if tree.entry? place = some .closedDirectory then .error .permissionDenied
    else if tree.entry? place ≠ some .directory then .error .notDirectory
    else if part = "." then walk tree fuel links place rest
    else if part = ".." then walk tree fuel links place.dropLast rest
    else if maxName < part.utf8ByteSize then .error .nameTooLong
    else
      let next := place ++ [part]
      match tree.entry? next with
      | none => .error .notFound
      | some (.link target) =>
        if links = 0 then .error .tooManyLinks
        else if target.isEmpty then .error .notFound
        else
          let start := if Path.isAbsolute target then [] else place
          walk tree fuel (links - 1) start (Path.steps target ++ rest)
      | some _ => walk tree fuel links next rest

/-- One more than the length of the longest target of a link. -/
def longestLink (tree : FileTree) : Nat :=
  (tree.entries.map (·.2.linkLength)).max?.getD 0

/-- Walks the parts from the root or from the working directory.  Each link brings at most the parts
    of its target, which bounds the steps. -/
def walkFrom (tree : FileTree) (absolute : Bool) (parts : List String) :
    Except FileFault FileTarget :=
  walk tree (parts.length + maxLinks * (tree.longestLink + 1) + 1) maxLinks
    (if absolute then [] else tree.workingDirectory) parts

/-- What the path leads to.  A slash at its end asks for a directory. -/
def find (tree : FileTree) (path : String) : Except FileFault FileTarget :=
  if path.toList.any (·.toNat = 0) then .error .nulInName
  else if path.isEmpty then .error .notFound
  else if maxPath ≤ path.utf8ByteSize then .error .nameTooLong
  else tree.walkFrom (Path.isAbsolute path) (Path.steps path)

/-- The path leads to something. -/
def exists? (tree : FileTree) (path : String) : Bool :=
  match tree.find path with
  | .ok _ => true
  | .error _ => false

/-- The path leads to a file, readable or not. -/
def isFile (tree : FileTree) (path : String) : Bool :=
  match tree.find path with
  | .ok (.file _) | .ok .closedFile => true
  | _ => false

/-! ## §3 Contents -/

/-- The text that the bytes encode in UTF-8, when they encode one. -/
def decodeText? (bytes : List UInt8) : Option String :=
  String.fromUTF8? (ByteArray.mk bytes.toArray)

/-- The text that is read from the path. -/
def readText (tree : FileTree) (path : String) : Except FileFault String :=
  match tree.find path with
  | .error e => .error e
  | .ok .directory => .error .isDirectory
  | .ok .closedFile => .error .permissionDenied
  | .ok (.file bytes) | .ok (.device bytes) =>
    match decodeText? bytes with
    | some s => .ok s
    | none => .error .notText

end FileTree

end RoleDaemon
