/-
  Documents — what an entry says about itself, and its body.

  The metadata of a document has a title, which may be empty, an optional summary, a path of
  categories from the widest to the narrowest, a list of tags, and two optional dates that are kept
  as they are written.  An entry is a document under an id.
-/
import Redline.Entry.Id

namespace Redline

/-- One level of a category path. -/
structure Category where
  name : String
deriving DecidableEq, Repr

/-- A tag, possibly of one version of the thing that it names. -/
structure Tag where
  name : String
  version : Option String := none
deriving DecidableEq, Repr

/-- What a document says about itself. -/
structure Metadata where
  title : String := ""
  summary : Option String := none
  categories : List Category := []
  tags : List Tag := []
  date : Option String := none
  updated : Option String := none
deriving DecidableEq, Repr

/-- Metadata and the body that it describes. -/
structure Document where
  metadata : Metadata := {}
  body : String := ""
deriving DecidableEq, Repr

/-- A document under its id. -/
structure Entry where
  id : EntryId
  document : Document
deriving DecidableEq

namespace Metadata

/-- The names of the categories, from the widest to the narrowest. -/
def categoryNames (m : Metadata) : List String :=
  m.categories.map Category.name

/-- The names of the tags, in order. -/
def tagNames (m : Metadata) : List String :=
  m.tags.map Tag.name

/-- The category path in one line. -/
def categoryPath (m : Metadata) : String :=
  " > ".intercalate m.categoryNames

/-- `m` with one more, narrower category. -/
def addCategory (m : Metadata) (name : String) : Metadata :=
  { m with categories := m.categories ++ [⟨name⟩] }

/-- `m` with one more tag. -/
def addTag (m : Metadata) (tag : Tag) : Metadata :=
  { m with tags := m.tags ++ [tag] }

end Metadata

end Redline
