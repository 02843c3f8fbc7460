/-
  Entries in JSON.

  An id is a number.  Every other type is an object; absent texts are left out, while the lists of
  metadata are always written and may be missing when read.  The fields of a header, in contrast,
  leave out what is absent, lists too.
-/
import Redline.FrontMatter.Fields
import Redline.Json.Record

namespace Redline

open Json (Record)

/-! ## Ids -/

/-- The id as a number. -/
def EntryId.toJson (id : EntryId) : Json :=
  .number id.number

/-- The id that a number stands for. -/
def EntryId.ofJson? (j : Json) : Option EntryId := do
  EntryId.ofNat? (← j.count?)

/-! ## Documents -/

/-- The category as an object. -/
def Category.toJson (c : Category) : Json :=
  .object [("name", .text c.name)]

/-- The category that an object describes. -/
def Category.ofJson? (j : Json) : Option Category := do
  let r ← j.record? ["name"] 1
  return ⟨← r.required? "name" Json.text?⟩

/-- The tag as an object. -/
def Tag.toJson (t : Tag) : Json :=
  .object (("name", .text t.name) :: Json.textMember "version" t.version)

/-- The tag that an object describes. -/
def Tag.ofJson? (j : Json) : Option Tag := do
  let r ← j.record? ["name", "version"] 1
  return ⟨← r.required? "name" Json.text?, ← r.optional? "version" Json.text?⟩

/-- The names of the fields of metadata. -/
def Metadata.fieldNames : List String :=
  ["title", "summary", "categories", "tags", "date", "updated"]

/-- The metadata as an object. -/
def Metadata.toJson (m : Metadata) : Json :=
  .object (("title", .text m.title) :: Json.textMember "summary" m.summary
    ++ [("categories", .array (m.categories.map Category.toJson)),
        ("tags", .array (m.tags.map Tag.toJson))]
    ++ Json.textMember "date" m.date ++ Json.textMember "updated" m.updated)

/-- The metadata that an object describes. -/
def Metadata.ofJson? (j : Json) : Option Metadata := do
  let r ← j.record? fieldNames 1
  let title ← r.required? "title" Json.text?
  let summary ← r.optional? "summary" Json.text?
  let categories ← r.getD? "categories" [] (Json.list? Category.ofJson?)
  let tags ← r.getD? "tags" [] (Json.list? Tag.ofJson?)
  let date ← r.optional? "date" Json.text?
  let updated ← r.optional? "updated" Json.text?
  return { title, summary, categories, tags, date, updated }

/-- The document as an object. -/
def Document.toJson (d : Document) : Json :=
  .object [("metadata", d.metadata.toJson), ("body", .text d.body)]

/-- The document that an object describes. -/
def Document.ofJson? (j : Json) : Option Document := do
  let r ← j.record? ["metadata", "body"] 2
  return ⟨← r.required? "metadata" Metadata.ofJson?, ← r.required? "body" Json.text?⟩

/-- The entry as an object. -/
def Entry.toJson (e : Entry) : Json :=
  .object [("entryId", e.id.toJson), ("document", e.document.toJson)]

/-- The entry that an object describes. -/
def Entry.ofJson? (j : Json) : Option Entry := do
  let r ← j.record? ["entryId", "document"] 2
  return ⟨← r.required? "entryId" EntryId.ofJson?, ← r.required? "document" Document.ofJson?⟩

/-! ## Headers -/

/-- A list that may be absent, as a member that is left out then. -/
def listMember {α : Type} (name : String) (write : α → Json) (xs : Option (List α)) :
    List (String × Json) :=
  match xs with
  | none => []
  | some xs => [(name, .array (xs.map write))]

namespace FrontMatter

/-- The fields of a header as an object. -/
def Fields.toJson (f : Fields) : Json :=
  .object (Json.textMember "title" f.title ++ Json.textMember "summary" f.summary
    ++ listMember "categories" Category.toJson f.categories
    ++ listMember "tags" Tag.toJson f.tags
    ++ Json.textMember "date" f.date ++ Json.textMember "updated" f.updated)

/-- The fields of a header that an object describes. -/
def Fields.ofJson? (j : Json) : Option Fields := do
  let r ← j.record? Metadata.fieldNames 0
  let title ← r.optional? "title" Json.text?
  let summary ← r.optional? "summary" Json.text?
  let categories ← r.optional? "categories" (Json.list? Category.ofJson?)
  let tags ← r.optional? "tags" (Json.list? Tag.ofJson?)
  let date ← r.optional? "date" Json.text?
  let updated ← r.optional? "updated" Json.text?
  return { title, summary, categories, tags, date, updated }

/-- The two parts of a text as an object. -/
def Decoded.toJson (d : Decoded) : Json :=
  .object [("metadata", d.fields.toJson), ("body", .text d.body)]

/-- The two parts of a text that an object describes. -/
def Decoded.ofJson? (j : Json) : Option Decoded := do
  let r ← j.record? ["metadata", "body"] 2
  return ⟨← r.required? "metadata" Fields.ofJson?, ← r.required? "body" Json.text?⟩

end FrontMatter

end Redline
