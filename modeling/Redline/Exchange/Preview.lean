/-
  Forms, modes and tag counts in JSON.

  A mode is an object whose member `mode` says which of the two it is; it is written first and may
  stand anywhere when read, or first in an array.  A mode is held as a whole before its parts are
  looked at, so everything in it has to be of a kind that can be held, its unknown members too.
-/
import Redline.Exchange.Entry
import Redline.Preview.Form
import Redline.Store.Catalog

namespace Redline

/-- The mode as an object. -/
def PreviewMode.toJson : PreviewMode → Json
  | .create id? => .object [("mode", .text "create"),
      ("entryId", match id? with | none => .null | some id => id.toJson)]
  | .edit id updateTimestamp => .object [("mode", .text "edit"), ("entryId", id.toJson),
      ("updateTimestamp", .bool updateTimestamp)]

/-- The mode named `name` that the rest of an object or an array describes. -/
def PreviewMode.ofNamed? (name : String) (j : Json) : Option PreviewMode :=
  match name with
  | "create" => do
    let r ← j.record? ["entryId"] 1
    return .create (← r.optional? "entryId" EntryId.ofJson?)
  | "edit" => do
    let r ← j.record? ["entryId", "updateTimestamp"] 2
    return .edit (← r.required? "entryId" EntryId.ofJson?)
      (← r.required? "updateTimestamp" Json.bool?)
  | _ => none

/-- How many arrays and objects may stand inside each other in a mode. -/
def PreviewMode.maxDepth : Nat := 127

/-- The mode that an object describes. -/
def PreviewMode.ofJson? (j : Json) : Option PreviewMode :=
  if !j.isHeld maxDepth then none
  else match j with
    | .object members =>
      match members.filter (·.1 = "mode") with
      | [(_, .text name)] => ofNamed? name (.object (members.filter (·.1 ≠ "mode")))
      | _ => none
    | .array (.text name :: rest) => ofNamed? name (.array rest)
    | _ => none

/-- The form as an object. -/
def EntryForm.toJson (f : EntryForm) : Json :=
  .object [("title", .text f.title), ("summary", .text f.summary),
    ("categories", .array (f.categories.map .text)), ("tags", .array (f.tags.map .text)),
    ("content", .text f.content)]

/-- The form that an object describes. -/
def EntryForm.ofJson? (j : Json) : Option EntryForm := do
  let r ← j.record? ["title", "summary", "categories", "tags", "content"] 5
  let title ← r.required? "title" Json.text?
  let summary ← r.required? "summary" Json.text?
  let categories ← r.required? "categories" (Json.list? Json.text?)
  let tags ← r.required? "tags" (Json.list? Json.text?)
  let content ← r.required? "content" Json.text?
  return { title, summary, categories, tags, content }

/-- The tag with its count as an object. -/
def TagCount.toJson (t : TagCount) : Json :=
  .object [("name", .text t.name), ("count", .number t.count)]

/-- The tag with its count that an object describes. -/
def TagCount.ofJson? (j : Json) : Option TagCount := do
  let r ← j.record? ["name", "count"] 2
  return ⟨← r.required? "name" Json.text?, ← r.required? "count" Json.count?⟩

end Redline
