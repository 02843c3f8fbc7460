/-
  Fields — what a header says, before anything is filled in.

  Every field is optional: a list that is present but empty is not a list that is absent.
  `toMetadata` fills an absent title with the empty one and an absent list with the empty one.
-/
import Redline.Entry.Document

namespace Redline.FrontMatter

/-- The fields that a header sets. -/
structure Fields where
  title : Option String := none
  summary : Option String := none
  categories : Option (List Category) := none
  tags : Option (List Tag) := none
  date : Option String := none
  updated : Option String := none
deriving DecidableEq, Repr

namespace Fields

/-- Whether no field is set. -/
def isEmpty (f : Fields) : Bool :=
  f.title.isNone && f.summary.isNone && f.categories.isNone && f.tags.isNone && f.date.isNone
    && f.updated.isNone

/-- The metadata that `f` describes. -/
def toMetadata (f : Fields) : Metadata where
  title := f.title.getD ""
  summary := f.summary
  categories := f.categories.getD []
  tags := f.tags.getD []
  date := f.date
  updated := f.updated

end Fields

/-- A text split into the fields of its header and its body. -/
structure Decoded where
  fields : Fields := {}
  body : String := ""
deriving DecidableEq, Repr

/-- The document that the two parts describe. -/
def Decoded.toDocument (d : Decoded) : Document :=
  ⟨d.fields.toMetadata, d.body⟩

end Redline.FrontMatter
