/-
  A store in a directory.

  The entries of a tenant are the files `<root>/<tenant>/<id>.md`, each the written form of a
  document.  A tenant is a single path component.

  1. **Ids** — the files in the directory whose names end in `.md` behind something that reads as
     an id; spaces, a sign and leading zeros in a name do not matter for that, but an entry is only
     ever read from the file with the plain name.  A directory that is missing holds no ids.
  2. **Saving** — the text is written to a new file, which then takes the place of the old one; if
     that fails, the new file is removed.  The answer is the document as the text describes it.
  3. **Failures** — a missing file is no failure, whatever else the system refuses is one; bytes
     that encode no text make an entry corrupt.
-/
import Redline.Files.Access
import Redline.FrontMatter.Decode
import Redline.FrontMatter.Encode
import Redline.Store.Basic

namespace Redline

/-- Whether `s` can be the name of a tenant: one path component that stands for itself. -/
def isTenantName (s : String) : Bool :=
  s ≠ "" && s ≠ "." && s ≠ ".."
    && s.toList.all fun c => c ≠ '/' && c ≠ '\\' && c ≠ '\x00'

/-- The directory of one tenant. -/
structure Directory where
  root : FilePath
  tenant : String
  isName : isTenantName tenant

namespace Directory

/-- The tenant that is meant where none is named. -/
def defaultTenant : String := "_"

/-- The directory of `tenant` below `root`. -/
def open? (root : FilePath) (tenant : String) : Except StoreError Directory :=
  if h : isTenantName tenant then .ok ⟨root, tenant, h⟩ else .error (.invalidTenant tenant)

/-- The directory that holds the entries. -/
def path (d : Directory) : FilePath :=
  FilePath.child d.root d.tenant

/-- The name of the file of an entry. -/
def fileName (id : EntryId) : String :=
  id.text ++ ".md"

/-- The file of an entry. -/
def entryPath (d : Directory) (id : EntryId) : FilePath :=
  FilePath.child d.path (fileName id)

/-- The id that a file name stands for. -/
def idOfFileName? (name : FileName) : Option EntryId := do
  let s ← name.text?
  match s.toList.reverse with
  | 'd' :: 'm' :: '.' :: stem => (EntryId.parse (String.ofList stem.reverse)).toOption
  | _ => none

/-- The ids that the file names `names` stand for, in ascending order. -/
def idsOfNames (names : List FileName) : List EntryId :=
  (names.filterMap idOfFileName?).mergeSort fun a b => a ≤ b

variable {m : Type → Type} [Monad m] [FileAccess m]

/-- Runs a file operation; a refusal is a failure of the store. -/
def run {α : Type} (operation : m (Except FileError α)) : ExceptT StoreError m α :=
  ExceptT.mk do
    match ← operation with
    | .ok a => return .ok a
    | .error e => return .error (.file e)

/-- The ids of the entries, in ascending order. -/
def ids (d : Directory) : ExceptT StoreError m (List EntryId) :=
  ExceptT.mk do
    match ← FileAccess.names d.path with
    | .ok names => return .ok (idsOfNames names)
    | .error .notFound => return .ok []
    | .error e => return .error (.file e)

/-- The entry with the id `id`. -/
def fetch (d : Directory) (id : EntryId) : ExceptT StoreError m (Option Entry) :=
  ExceptT.mk do
    match ← FileAccess.readText (d.entryPath id) with
    | .ok (some text) => return .ok (some ⟨id, FrontMatter.decodeDocument text⟩)
    | .ok none => return .error (.corrupt id "stream did not contain valid UTF-8")
    | .error .notFound => return .ok none
    | .error e => return .error (.file e)

/-- The id for a new entry. -/
def newId (d : Directory) : ExceptT StoreError m EntryId := do
  return EntryId.after (← d.ids).getLast?

/-- Puts `bytes` into the file at `target`, in the directory at `path`, all of them or none. -/
def replaceFile (path target : FilePath) (bytes : ByteArray) : ExceptT StoreError m Unit := do
  let new ← run (FileAccess.newFile path bytes)
  match ← (FileAccess.rename new target : m (Except FileError Unit)) with
  | .ok () => return ()
  | .error e =>
    let _ ← (FileAccess.remove new : m (Except FileError Unit))
    throw (.file e)

/-- Saves `document` under the given id or under a new one. -/
def save (d : Directory) (id? : Option EntryId) (document : Document) :
    ExceptT StoreError m Entry := do
  let id ← match id? with
    | some id => pure id
    | none => d.newId
  run (FileAccess.makeDirectories d.path)
  let text := FrontMatter.encodeDocument document
  replaceFile d.path (d.entryPath id) text.toUTF8
  return ⟨id, FrontMatter.decodeDocument text⟩

/-- The entries with the given ids, as far as they are there. -/
def fetchAll (d : Directory) : List EntryId → ExceptT StoreError m (List Entry)
  | [] => return []
  | id :: rest => do
    let found ← d.fetch id
    let others ← d.fetchAll rest
    return found.toList ++ others

/-- All entries. -/
def list (d : Directory) : ExceptT StoreError m (List Entry) := do
  d.fetchAll (← d.ids)

/-- Deletes the entry with the id `id`. -/
def delete (d : Directory) (id : EntryId) : ExceptT StoreError m Bool :=
  ExceptT.mk do
    match ← FileAccess.remove (d.entryPath id) with
    | .ok () => return .ok true
    | .error .notFound => return .ok false
    | .error e => return .error (.file e)

/-- The store that keeps its entries in `d`. -/
def store (d : Directory) : DocumentStore m where
  fetch := d.fetch
  save := d.save
  list := d.list
  delete := d.delete

end Directory

end Redline
