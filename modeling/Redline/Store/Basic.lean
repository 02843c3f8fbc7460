/-
  Stores of entries.

  A store keeps at most one document under each id.  It can be asked for one entry and for all of
  them in ascending order, it saves a document under a given id or under a new one, and it deletes.
  Each of these may fail, and a failure has one of five causes.

  `DocumentStore m` is any such store whose operations run in the monad `m`.
-/
import Redline.Entry.Document
import Redline.Files.Path
import Redline.Text.Quoted

namespace Redline

/-- The cause of a failure of a store. -/
inductive StoreError where
  | file (e : FileError)
  | corrupt (id : EntryId) (reason : String)
  | invalidTenant (tenant : String)
  | readOnly
  | backend (text : String)
deriving DecidableEq

/-- What is said about a failure of a store. -/
def StoreError.message : StoreError → String
  | .file e => "I/O error: " ++ e.message
  | .corrupt id reason => "corrupt entry " ++ id.text ++ ": " ++ reason
  | .invalidTenant tenant => "invalid tenant: " ++ Text.quotedText tenant
  | .readOnly => "store is read-only"
  | .backend text => "backend error: " ++ text

/-- The operations of a store. -/
structure DocumentStore (m : Type → Type) where
  /-- The entry with an id, if there is one. -/
  fetch : EntryId → ExceptT StoreError m (Option Entry)
  /-- Saves a document under an id, or under a new one; answers the entry as it is kept. -/
  save : Option EntryId → Document → ExceptT StoreError m Entry
  /-- All entries, in ascending order of their ids. -/
  list : ExceptT StoreError m (List Entry)
  /-- Deletes the entry with an id; answers whether there was one. -/
  delete : EntryId → ExceptT StoreError m Bool

/-- The id of a new entry, where `last?` is the largest id in use. -/
def EntryId.after (last? : Option EntryId) : EntryId :=
  match last? with
  | none => EntryId.first
  | some last => last.next

end Redline
