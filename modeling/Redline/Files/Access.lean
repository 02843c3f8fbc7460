/-
  Access to files.

  `FileAccess m` says what a program in the monad `m` can do with files.  Every operation answers
  with a result or with a reason; none of them leaves a file half written.

  `makeDirectories` is the one operation that is put together from others.
-/
import Redline.Files.Path

namespace Redline

/-- What a program can do with files. -/
class FileAccess (m : Type → Type) where
  /-- The bytes of a file. -/
  read : FilePath → m (Except FileError ByteArray)
  /-- The names in a directory, in any order. -/
  names : FilePath → m (Except FileError (List FileName))
  /-- Whether there is a directory at a path. -/
  isDirectory : FilePath → m Bool
  /-- Makes one directory, in a directory that is there. -/
  makeDirectory : FilePath → m (Except FileError Unit)
  /-- Makes a file with the given bytes, under a new name in a directory; answers its path. -/
  newFile : FilePath → ByteArray → m (Except FileError FilePath)
  /-- Moves the file at the first path to the second, in place of a file that is there. -/
  rename : FilePath → FilePath → m (Except FileError Unit)
  /-- Removes a file. -/
  remove : FilePath → m (Except FileError Unit)

namespace FileAccess

variable {m : Type → Type} [Monad m] [FileAccess m]

/-- Takes a failure to make a directory for a success where there is a directory already. -/
def acceptDirectory (path : FilePath) (e : FileError) : m (Except FileError Unit) := do
  if ← isDirectory path then return .ok () else return .error e

/-- Makes the directory whose components, from the innermost on, are `parts`, and the directories
    around it as far as they are missing. -/
def makeDirectoriesOf : List String → m (Except FileError Unit)
  | [] => return .ok ()
  | part :: outer => do
    let path := (part :: outer).reverse
    match ← makeDirectory path with
    | .ok () => return .ok ()
    | .error .notFound =>
      match ← makeDirectoriesOf outer with
      | .error e => return .error e
      | .ok () =>
        match ← makeDirectory path with
        | .ok () => return .ok ()
        | .error e => acceptDirectory path e
    | .error e => acceptDirectory path e

/-- Makes the directory at `path` and the directories around it, as far as they are missing. -/
def makeDirectories (path : FilePath) : m (Except FileError Unit) :=
  makeDirectoriesOf path.reverse

/-- The text of a file; none if its bytes encode no text. -/
def readText (path : FilePath) : m (Except FileError (Option String)) := do
  match ← read path with
  | .ok bytes => return .ok (String.fromUTF8? bytes)
  | .error e => return .error e

end FileAccess

end Redline
