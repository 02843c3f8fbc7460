/-
  Alignments and hunks in JSON.

  A kind is a word.  A line is an object whose two numbers are always written, as `null` when they
  are absent; an alignment is the array of its lines.
-/
import Redline.Diff.Hunk
import Redline.Json.Record

namespace Redline.Diff

/-- The word for a kind. -/
def ChangeKind.word : ChangeKind → String
  | .unchanged => "unchanged"
  | .added => "added"
  | .deleted => "deleted"

/-- The kind as a word. -/
def ChangeKind.toJson (k : ChangeKind) : Json :=
  .text k.word

/-- The kind that a word names. -/
def ChangeKind.ofJson? (j : Json) : Option ChangeKind := do
  match ← j.word? with
  | "unchanged" => some .unchanged
  | "added" => some .added
  | "deleted" => some .deleted
  | _ => none

/-- A number that may be absent. -/
def numberOrNull : Option Nat → Json
  | none => .null
  | some n => .number n

/-- The line as an object. -/
def DiffLine.toJson (l : DiffLine) : Json :=
  .object [("kind", l.kind.toJson), ("content", .text l.content),
    ("originalLineNumber", numberOrNull l.oldLine),
    ("newLineNumber", numberOrNull l.newLine)]

/-- The line that an object describes. -/
def DiffLine.ofJson? (j : Json) : Option DiffLine := do
  let r ← j.record? ["kind", "content", "originalLineNumber", "newLineNumber"] 4
  let kind ← r.required? "kind" ChangeKind.ofJson?
  let content ← r.required? "content" Json.text?
  let oldLine ← r.optional? "originalLineNumber" Json.count?
  let newLine ← r.optional? "newLineNumber" Json.count?
  return { kind, content, oldLine, newLine }

/-- The alignment as an array. -/
def Alignment.toJson (a : Alignment) : Json :=
  .array (a.lines.map DiffLine.toJson)

/-- The alignment that an array describes. -/
def Alignment.ofJson? (j : Json) : Option Alignment := do
  return ⟨← j.list? DiffLine.ofJson?⟩

/-- The hunk as an object. -/
def Hunk.toJson (h : Hunk) : Json :=
  .object [("oldStart", .number h.oldStart), ("oldCount", .number h.oldCount),
    ("newStart", .number h.newStart), ("newCount", .number h.newCount),
    ("lines", .array (h.lines.map DiffLine.toJson))]

/-- The hunk that an object describes. -/
def Hunk.ofJson? (j : Json) : Option Hunk := do
  let r ← j.record? ["oldStart", "oldCount", "newStart", "newCount", "lines"] 5
  let oldStart ← r.required? "oldStart" Json.count?
  let oldCount ← r.required? "oldCount" Json.count?
  let newStart ← r.required? "newStart" Json.count?
  let newCount ← r.required? "newCount" Json.count?
  let lines ← r.required? "lines" (Json.list? DiffLine.ofJson?)
  return { oldStart, oldCount, newStart, newCount, lines }

end Redline.Diff
