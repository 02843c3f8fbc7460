/-
  Sessions — a form, laid beside what is stored.

  A session holds the entry as it was when the form was prepared, if there was one, the document
  that the form describes, the written forms of both, and their alignment.  It never changes; what
  happens to the store afterwards does not show in it.
-/
import Redline.Diff.Align
import Redline.FrontMatter.Encode
import Redline.Preview.Form

namespace Redline

/-- A form that is ready to be confirmed. -/
structure Session where
  mode : PreviewMode
  form : EntryForm
  stored : Option Entry
  storedText : String
  candidate : Document
  candidateText : String
  alignment : Diff.Alignment

namespace Session

/-- The session of a form beside the entry `stored`. -/
def prepared (mode : PreviewMode) (form : EntryForm) (stored : Option Entry) : Session :=
  let candidate := form.document mode (stored.map fun e => e.document.metadata)
  let storedText :=
    match stored with
    | some e => FrontMatter.encodeDocument e.document
    | none => ""
  let candidateText := FrontMatter.encodeDocument candidate
  { mode, form, stored, storedText, candidate, candidateText
    alignment := Diff.compareTexts storedText candidateText }

/-- Whether confirming would change the written form of the entry. -/
def hasChanges (s : Session) : Bool :=
  !s.alignment.isIdentical

/-- The heading of the session. -/
def title (s : Session) : String :=
  match s.mode, s.stored with
  | .edit _ _, _ => "Review Changes"
  | .create _, some e => "Review Changes for Entry " ++ e.id.text
  | .create _, none => "Review New Entry"

end Session

end Redline
