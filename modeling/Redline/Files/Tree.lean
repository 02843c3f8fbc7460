/-
  File trees — the files under one directory, as a value.

  A tree lists what stands at each location below its root; the root itself is a directory and is
  not listed.  A location is a list of names.

  A path is followed from the root, component by component, as a file system does it; the program
  works in the root, so a relative path starts there as an absolute one does:

  1. a path of more than 4095 bytes is refused, wherever it would lead;
  2. what a component is looked up in has to be a directory that is there;
  3. an empty component and `.` stay where they are, and `..` goes one level up, from the root to
     the root;
  4. a name of more than 255 bytes is refused.

  `StateM FileTree` has access to files, so whatever is written over `FileAccess` can be run on a
  tree.  Reading, replacing or removing a directory as if it were a file is refused, and a refused
  operation leaves the tree as it was.

  A tree holds files and directories only.  There are no links in it, nobody is denied access, the
  medium is never full and never fails, and no other program works on it.
-/
import Redline.Files.Access

namespace Redline

/-- What stands at a location. -/
inductive Node where
  | file (content : ByteArray)
  | directory

/-- The names on the way from the root of a tree. -/
abbrev Location := List FileName

/-- The files and directories below a root. -/
structure FileTree where
  nodes : List (Location × Node)

namespace FileTree

/-- The tree with nothing below its root. -/
def empty : FileTree := ⟨[]⟩

/-! ## Locations -/

/-- What stands at `l`. -/
def find? (t : FileTree) (l : Location) : Option Node :=
  if l = [] then some .directory else t.nodes.lookup l

/-- The tree with `n` at `l`, in place of what was there. -/
def put (t : FileTree) (l : Location) (n : Node) : FileTree :=
  ⟨(l, n) :: t.nodes.filter fun (l', _) => l' ≠ l⟩

/-- The tree with nothing at `l`. -/
def drop (t : FileTree) (l : Location) : FileTree :=
  ⟨t.nodes.filter fun (l', _) => l' ≠ l⟩

/-- The names in the directory at `l`. -/
def children (t : FileTree) (l : Location) : List FileName :=
  t.nodes.filterMap fun (l', _) => if l'.dropLast = l then l'.getLast? else none

/-- The tree with directories at all locations `l ++ names` for the first few of `names`. -/
def putDirectories (t : FileTree) (l : Location) : List FileName → FileTree
  | [] => t
  | name :: names =>
    let inner := l ++ [name]
    let t := if (t.find? inner).isSome then t else t.put inner .directory
    t.putDirectories inner names

/-- The tree with a file at `l`, and directories around it where there were none. -/
def putFile (t : FileTree) (l : Location) (content : ByteArray) : FileTree :=
  (t.putDirectories [] l.dropLast).put l (.file content)

/-! ## Paths -/

/-- The longest name, in bytes. -/
def maxNameSize : Nat := 255

/-- The longest path in writing, in bytes. -/
def maxPathSize : Nat := 4095

/-- Whether `path` is longer than a path may be. -/
def isTooLong (path : FilePath) : Bool :=
  maxPathSize < path.text.utf8ByteSize

/-- The location that `path` leads to from `here`; the last name need not be there. -/
def follow (t : FileTree) (here : Location) : FilePath → Except FileError Location
  | [] => .ok here
  | name :: rest =>
    match t.find? here with
    | none => .error .notFound
    | some (.file _) => .error .notADirectory
    | some .directory =>
      if name = "" ∨ name = "." then t.follow here rest
      else if name = ".." then t.follow here.dropLast rest
      else if maxNameSize < name.utf8ByteSize then .error .nameTooLong
      else t.follow (here ++ [FileName.ofText name]) rest

/-- The location that `path` leads to. -/
def locate (t : FileTree) (path : FilePath) : Except FileError Location :=
  if path.any fun name => name.toList.contains '\x00' then .error .nulInName
  else if isTooLong path then .error .nameTooLong
  else if path = [] then .error .notFound
  else t.follow [] path

/-- What stands at the end of `path`. -/
def at? (t : FileTree) (path : FilePath) : Except FileError (Location × Node) := do
  let l ← t.locate path
  match t.find? l with
  | none => .error .notFound
  | some n => .ok (l, n)

/-! ## Operations -/

/-- The bytes of the file at `path`. -/
def read (t : FileTree) (path : FilePath) : Except FileError ByteArray := do
  match ← t.at? path with
  | (_, .file content) => .ok content
  | (_, .directory) => .error .isADirectory

/-- The names in the directory at `path`. -/
def names (t : FileTree) (path : FilePath) : Except FileError (List FileName) := do
  match ← t.at? path with
  | (_, .file _) => .error .notADirectory
  | (l, .directory) => .ok (t.children l)

/-- Whether there is a directory at `path`. -/
def isDirectory (t : FileTree) (path : FilePath) : Bool :=
  match t.at? path with
  | .ok (_, .directory) => true
  | _ => false

/-- The tree with a new directory at `path`. -/
def makeDirectory (t : FileTree) (path : FilePath) : Except FileError FileTree := do
  let l ← t.locate path
  match t.find? l with
  | some _ => .error .alreadyExists
  | none => .ok (t.put l .directory)

/-- A name that is not in `taken`. -/
def freshName? (taken : List FileName) : Option String :=
  ((List.range (taken.length + 1)).map FilePath.temporaryName).find? fun name =>
    !taken.contains (FileName.ofText name)

/-- The tree with a new file in the directory at `path`, and the path of that file. -/
def newFile (t : FileTree) (path : FilePath) (content : ByteArray) :
    Except FileError (FilePath × FileTree) := do
  match ← t.at? path with
  | (_, .file _) => .error .notADirectory
  | (l, .directory) =>
    match freshName? (t.children l) with
    | none => .error .alreadyExists
    | some name =>
      let new := path.child name
      if isTooLong new || maxNameSize < name.utf8ByteSize then .error .nameTooLong
      else .ok (new, t.put (l ++ [FileName.ofText name]) (.file content))

/-- The tree with the file at `source` moved to `target`. -/
def rename (t : FileTree) (source target : FilePath) : Except FileError FileTree := do
  match ← t.at? source with
  | (_, .directory) => .error .isADirectory
  | (l, .file content) =>
    let l' ← t.locate target
    match t.find? l' with
    | some .directory => .error .isADirectory
    | _ => .ok ((t.drop l).put l' (.file content))

/-- The tree without the file at `path`. -/
def remove (t : FileTree) (path : FilePath) : Except FileError FileTree := do
  match ← t.at? path with
  | (_, .directory) => .error .isADirectory
  | (l, .file _) => .ok (t.drop l)

/-- Runs an operation that changes the tree when it succeeds. -/
def update {α : Type} (operation : FileTree → Except FileError (α × FileTree)) :
    StateM FileTree (Except FileError α) := fun t =>
  match operation t with
  | .ok (a, t') => (.ok a, t')
  | .error e => (.error e, t)

instance : FileAccess (StateM FileTree) where
  read path := fun t => (t.read path, t)
  names path := fun t => (t.names path, t)
  isDirectory path := fun t => (t.isDirectory path, t)
  makeDirectory path := update fun t => (t.makeDirectory path).map ((), ·)
  newFile path content := update fun t => t.newFile path content
  rename source target := update fun t => (t.rename source target).map ((), ·)
  remove path := update fun t => (t.remove path).map ((), ·)

end FileTree

end Redline
