/-
  Forms — what is filled in for an entry.

  A form always has a title, a summary and a content, possibly empty, and the names of categories
  and tags as they were typed.  `EntryForm.metadata` turns it into metadata: an empty summary is
  none, names are trimmed and blank names dropped.  The dates are no part of a form: an edit takes
  them from the entry that is stored, the `updated` one only unless a new time stamp is asked for.
-/
import Redline.Entry.Document

namespace Redline

/-- What a form is for. -/
inductive PreviewMode where
  | create (id? : Option EntryId)
  | edit (id : EntryId) (updateTimestamp : Bool)
deriving DecidableEq

/-- The id that the entry is to have, when it is known. -/
def PreviewMode.target : PreviewMode → Option EntryId
  | .create id? => id?
  | .edit id _ => some id

/-- What is filled in for an entry. -/
structure EntryForm where
  title : String
  summary : String := ""
  categories : List String := []
  tags : List String := []
  content : String := ""
deriving DecidableEq, Repr

namespace EntryForm

/-- Whether there is nothing but white space in the title. -/
def isTitleBlank (f : EntryForm) : Bool :=
  Text.trimmed f.title.toList = []

/-- The names that were typed, trimmed, without those of which nothing is left. -/
def cleanNames (names : List String) : List String :=
  (names.map Text.trim).filter (· ≠ "")

/-- The date of the edited entry, in an edit. -/
def carriedDate (mode : PreviewMode) (stored : Option Metadata) : Option String :=
  match mode, stored with
  | .edit _ _, some stored => stored.date
  | _, _ => none

/-- The time of the last change of the edited entry, in an edit that keeps it. -/
def carriedUpdated (mode : PreviewMode) (stored : Option Metadata) : Option String :=
  match mode, stored with
  | .edit _ false, some stored => stored.updated
  | _, _ => none

/-- The metadata that the form describes, where `stored` is what the entry says of itself now. -/
def metadata (f : EntryForm) (mode : PreviewMode) (stored : Option Metadata) : Metadata where
  title := f.title
  summary := if f.summary = "" then none else some f.summary
  categories := (cleanNames f.categories).map fun name => ⟨name⟩
  tags := (cleanNames f.tags).map fun name => ⟨name, none⟩
  date := carriedDate mode stored
  updated := carriedUpdated mode stored

/-- The document that the form describes. -/
def document (f : EntryForm) (mode : PreviewMode) (stored : Option Metadata) : Document where
  metadata := f.metadata mode stored
  body := f.content

end EntryForm

end Redline
