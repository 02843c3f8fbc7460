/-
  Preparing and confirming.

  1. **`prepare`** — a form without a title is refused before the store is asked.  Otherwise the
     store is asked once, for the entry with the target id, and not at all when there is no target.
     An edit needs an entry that is there; a creation takes what it finds.  Nothing is written.
  2. **`confirm`** — the document of the session is saved under its target id, or under a new one
     when there is no target.  The store as it was prepared against does not matter.
-/
import Redline.Preview.Session
import Redline.Store.Basic

namespace Redline

/-- The cause of a failure to prepare or to confirm. -/
inductive PreviewError where
  | entryNotFound (id : EntryId)
  | invalidForm (text : String)
  | store (e : StoreError)
deriving DecidableEq

/-- What is said about such a failure. -/
def PreviewError.message : PreviewError → String
  | .entryNotFound id => "entry not found: " ++ id.text
  | .invalidForm text => "invalid form: " ++ text
  | .store e => "store error: " ++ e.message

variable {m : Type → Type} [Monad m]

namespace DocumentStore

/-- Runs an operation of a store; its failure is a failure of the preview. -/
def forPreview {α : Type} (operation : ExceptT StoreError m α) : ExceptT PreviewError m α :=
  operation.adapt PreviewError.store

/-- The entry that a form is laid beside. -/
def storedEntry (s : DocumentStore m) (mode : PreviewMode) :
    ExceptT PreviewError m (Option Entry) :=
  match mode with
  | .create none => return none
  | .create (some id) => forPreview (s.fetch id)
  | .edit id _ => do
    match ← forPreview (s.fetch id) with
    | some e => return some e
    | none => throw (.entryNotFound id)

/-- The session of a form. -/
def prepare (s : DocumentStore m) (mode : PreviewMode) (form : EntryForm) :
    ExceptT PreviewError m Session := do
  if form.isTitleBlank then throw (.invalidForm "title is required")
  return Session.prepared mode form (← s.storedEntry mode)

/-- Saves the document of a session. -/
def confirm (s : DocumentStore m) (session : Session) : ExceptT PreviewError m Entry :=
  forPreview (s.save session.mode.target session.candidate)

end DocumentStore

end Redline
