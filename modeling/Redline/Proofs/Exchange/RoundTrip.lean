/-
  Values in JSON — what is written is read back as the same value.

  1. **Reading** — each type reads what it has written, in whatever order the members of the objects
     stand: a field that was left out is absent again, an empty list is present, and an id is valid.
  2. **Writing** — every type writes values of natural numbers and texts only.
  3. **Round trips** — so a value comes back from its text, in the compact and in the indented form
     (`roundTrips`).  Line numbers and counts are of 64 bits; no other value has a bound.
-/
import Redline.Exchange.Diff
import Redline.Exchange.Preview
import Redline.Proofs.Json.Read
import Redline.Proofs.Json.Record

namespace Redline

open Json (Arranges Record Written present)

variable {f : Json → Json}

/-! ## Texts, lists and counts among the members -/

/-- A text among the members is read as itself. -/
theorem Json.Record.required?_text (hf : Arranges f) {r : Record} {name s : String}
    (hget : r.get? name = some (f (.text s))) : r.required? name Json.text? = some s :=
  required?_of_get? hget (by rw [hf.text]; rfl)

/-- A text that may be left out is read as it was written, and as absent where it was left out. -/
theorem Json.Record.optional?_text (hf : Arranges f) {r : Record} {name : String}
    {s? : Option String} (hget : r.get? name = (s?.map .text).map f) :
    r.optional? name Json.text? = some s? := by
  rw [Option.map_map] at hget
  refine optional?_of_get? hget (fun s => ?_) fun s _ => ?_
  · rw [Function.comp_apply, hf.text]
    exact Json.noConfusion
  · rw [Function.comp_apply, hf.text]
    rfl

/-- A count of 64 bits is read as itself; a greater one would be refused. -/
theorem Json.count?_arranged (hf : Arranges f) {n : Nat} (h : n ≤ Text.maxCount) :
    Json.count? (f (.number n)) = some n := by
  rw [hf.number]
  exact if_pos h

/-- A list is read element by element, so it comes back when each of its elements does. -/
theorem Json.list?_arranged (hf : Arranges f) {α : Type} {write : α → Json}
    {read : Json → Option α} {xs : List α} (h : ∀ x ∈ xs, read (f (write x)) = some x) :
    Json.list? read (f (.array (xs.map write))) = some xs := by
  rw [hf.array, List.map_map]
  exact Json.list?_map h

/-- A list that may be left out: an empty list is written and comes back empty, not absent. -/
theorem Json.Record.optional?_list (hf : Arranges f) {α : Type} {write : α → Json}
    {read : Json → Option α} (h : ∀ x, read (f (write x)) = some x) {r : Record} {name : String}
    {xs? : Option (List α)}
    (hget : r.get? name = (xs?.map fun xs => .array (xs.map write)).map f) :
    r.optional? name (Json.list? read) = some xs? := by
  rw [Option.map_map] at hget
  refine optional?_of_get? hget (fun xs => ?_) fun xs _ => Json.list?_arranged hf fun x _ => h x
  rw [Function.comp_apply, hf.array]
  exact Json.noConfusion

/-! ## Entries -/

/-- An id has 64 bits and is not zero, so its number is a valid id again. -/
theorem EntryId.ofJson?_arranged (hf : Arranges f) (id : EntryId) :
    ofJson? (f id.toJson) = some id := by
  rw [toJson, ofJson?, Json.count?_arranged hf id.bounded]
  exact ofNat?_number id

/-- A category is an object with its name only. -/
theorem Category.ofJson?_arranged (hf : Arranges f) (c : Category) :
    ofJson? (f c.toJson) = some c := by
  have hobject : c.toJson = .object (present [("name", some (.text c.name))]) := rfl
  obtain ⟨r, hr, hget⟩ := Json.record?_present hf hobject ["name"] 1 rfl (by decide)
  have hname : r.required? "name" Json.text? = some c.name := r.required?_text hf (hget "name")
  rw [ofJson?, hr]
  simp only [Option.bind_eq_bind, Option.bind_some, hname]
  rfl

/-- The version of a tag is left out where there is none; it is not written as null. -/
theorem Tag.toJson_eq_present (t : Tag) : t.toJson
    = .object (present [("name", some (.text t.name)), ("version", t.version.map .text)]) := by
  rw [toJson, Json.textMember_eq_present]
  rfl

/-- A tag with and without a version. -/
theorem Tag.ofJson?_arranged (hf : Arranges f) (t : Tag) : ofJson? (f t.toJson) = some t := by
  obtain ⟨r, hr, hget⟩ := Json.record?_present hf t.toJson_eq_present ["name", "version"] 1 rfl
    (by decide)
  have hname : r.required? "name" Json.text? = some t.name := r.required?_text hf (hget "name")
  have hversion : r.optional? "version" Json.text? = some t.version :=
    r.optional?_text hf (hget "version")
  rw [ofJson?, hr]
  simp only [Option.bind_eq_bind, Option.bind_some, hname, hversion]
  rfl

/-- Both lists stand in the object even when they are empty; only the texts may be left out. -/
theorem Metadata.toJson_eq_present (m : Metadata) : m.toJson = .object (present [
    ("title", some (.text m.title)), ("summary", m.summary.map .text),
    ("categories", some (.array (m.categories.map Category.toJson))),
    ("tags", some (.array (m.tags.map Tag.toJson))),
    ("date", m.date.map .text), ("updated", m.updated.map .text)]) := by
  simp [toJson, Json.textMember_eq_present, present]

/-- Metadata, field by field.  A missing list would be read as an empty one, but none is
    missing. -/
theorem Metadata.ofJson?_arranged (hf : Arranges f) (m : Metadata) :
    ofJson? (f m.toJson) = some m := by
  obtain ⟨r, hr, hget⟩ := Json.record?_present hf m.toJson_eq_present fieldNames 1 rfl (by decide)
  have htitle : r.required? "title" Json.text? = some m.title := r.required?_text hf (hget "title")
  have hsummary : r.optional? "summary" Json.text? = some m.summary :=
    r.optional?_text hf (hget "summary")
  have hcategories : r.getD? "categories" [] (Json.list? Category.ofJson?) = some m.categories :=
    Record.getD?_of_get? (hget "categories")
      (Json.list?_arranged hf fun c _ => c.ofJson?_arranged hf)
  have htags : r.getD? "tags" [] (Json.list? Tag.ofJson?) = some m.tags :=
    Record.getD?_of_get? (hget "tags") (Json.list?_arranged hf fun t _ => t.ofJson?_arranged hf)
  have hdate : r.optional? "date" Json.text? = some m.date := r.optional?_text hf (hget "date")
  have hupdated : r.optional? "updated" Json.text? = some m.updated :=
    r.optional?_text hf (hget "updated")
  rw [ofJson?, hr]
  simp only [Option.bind_eq_bind, Option.bind_some, htitle, hsummary, hcategories, htags, hdate,
    hupdated]
  rfl

/-- A document has no field that may be left out. -/
theorem Document.ofJson?_arranged (hf : Arranges f) (d : Document) :
    ofJson? (f d.toJson) = some d := by
  have hobject : d.toJson = .object (present [("metadata", some d.metadata.toJson),
      ("body", some (.text d.body))]) := rfl
  obtain ⟨r, hr, hget⟩ := Json.record?_present hf hobject ["metadata", "body"] 2 rfl (by decide)
  have hmetadata : r.required? "metadata" Metadata.ofJson? = some d.metadata :=
    Record.required?_of_get? (hget "metadata") (d.metadata.ofJson?_arranged hf)
  have hbody : r.required? "body" Json.text? = some d.body := r.required?_text hf (hget "body")
  rw [ofJson?, hr]
  simp only [Option.bind_eq_bind, Option.bind_some, hmetadata, hbody]
  rfl

theorem Entry.ofJson?_arranged (hf : Arranges f) (e : Entry) : ofJson? (f e.toJson) = some e := by
  have hobject : e.toJson = .object (present [("entryId", some e.id.toJson),
      ("document", some e.document.toJson)]) := rfl
  obtain ⟨r, hr, hget⟩ := Json.record?_present hf hobject ["entryId", "document"] 2 rfl (by decide)
  have hid : r.required? "entryId" EntryId.ofJson? = some e.id :=
    Record.required?_of_get? (hget "entryId") (e.id.ofJson?_arranged hf)
  have hdocument : r.required? "document" Document.ofJson? = some e.document :=
    Record.required?_of_get? (hget "document") (e.document.ofJson?_arranged hf)
  rw [ofJson?, hr]
  simp only [Option.bind_eq_bind, Option.bind_some, hid, hdocument]
  rfl

/-! ## Headers -/

/-- A list of a header is left out where the header has no line for it. -/
theorem listMember_eq_present {α : Type} (name : String) (write : α → Json)
    (xs : Option (List α)) :
    listMember name write xs = present [(name, xs.map fun xs => .array (xs.map write))] := by
  cases xs <;> rfl

namespace FrontMatter

/-- Every field of a header may be left out, the title and the lists too. -/
theorem Fields.toJson_eq_present (x : Fields) : x.toJson = .object (present [
    ("title", x.title.map .text), ("summary", x.summary.map .text),
    ("categories", x.categories.map fun cs => .array (cs.map Category.toJson)),
    ("tags", x.tags.map fun ts => .array (ts.map Tag.toJson)),
    ("date", x.date.map .text), ("updated", x.updated.map .text)]) := by
  simp [toJson, Json.textMember_eq_present, listMember_eq_present, present]

/-- The fields of a header, of which none is required. -/
theorem Fields.ofJson?_arranged (hf : Arranges f) (x : Fields) : ofJson? (f x.toJson) = some x := by
  obtain ⟨r, hr, hget⟩ :=
    Json.record?_present hf x.toJson_eq_present Metadata.fieldNames 0 rfl (by decide)
  have htitle : r.optional? "title" Json.text? = some x.title := r.optional?_text hf (hget "title")
  have hsummary : r.optional? "summary" Json.text? = some x.summary :=
    r.optional?_text hf (hget "summary")
  have hcategories : r.optional? "categories" (Json.list? Category.ofJson?) = some x.categories :=
    r.optional?_list hf (Category.ofJson?_arranged hf) (hget "categories")
  have htags : r.optional? "tags" (Json.list? Tag.ofJson?) = some x.tags :=
    r.optional?_list hf (Tag.ofJson?_arranged hf) (hget "tags")
  have hdate : r.optional? "date" Json.text? = some x.date := r.optional?_text hf (hget "date")
  have hupdated : r.optional? "updated" Json.text? = some x.updated :=
    r.optional?_text hf (hget "updated")
  rw [ofJson?, hr]
  simp only [Option.bind_eq_bind, Option.bind_some, htitle, hsummary, hcategories, htags, hdate,
    hupdated]
  rfl

theorem Decoded.ofJson?_arranged (hf : Arranges f) (d : Decoded) :
    ofJson? (f d.toJson) = some d := by
  have hobject : d.toJson = .object (present [("metadata", some d.fields.toJson),
      ("body", some (.text d.body))]) := rfl
  obtain ⟨r, hr, hget⟩ := Json.record?_present hf hobject ["metadata", "body"] 2 rfl (by decide)
  have hfields : r.required? "metadata" Fields.ofJson? = some d.fields :=
    Record.required?_of_get? (hget "metadata") (d.fields.ofJson?_arranged hf)
  have hbody : r.required? "body" Json.text? = some d.body := r.required?_text hf (hget "body")
  rw [ofJson?, hr]
  simp only [Option.bind_eq_bind, Option.bind_some, hfields, hbody]
  rfl

end FrontMatter

/-! ## Alignments and hunks -/

namespace Diff

/-- The numbers of a line are of 64 bits. -/
def DiffLine.IsCounted (l : DiffLine) : Prop :=
  (∀ n ∈ l.oldLine, n ≤ Text.maxCount) ∧ ∀ n ∈ l.newLine, n ≤ Text.maxCount

/-- The numbers of all lines are of 64 bits. -/
def Alignment.IsCounted (a : Alignment) : Prop :=
  ∀ l ∈ a.lines, l.IsCounted

/-- The numbers of a hunk and those of its lines are of 64 bits. -/
structure Hunk.IsCounted (h : Hunk) : Prop where
  oldStart : h.oldStart ≤ Text.maxCount
  oldCount : h.oldCount ≤ Text.maxCount
  newStart : h.newStart ≤ Text.maxCount
  newCount : h.newCount ≤ Text.maxCount
  lines : ∀ l ∈ h.lines, l.IsCounted

/-- A number that is not there is written as null, where other fields are left out. -/
theorem numberOrNull_eq_elim (n? : Option Nat) : numberOrNull n? = n?.elim .null .number := by
  cases n? <;> rfl

theorem ChangeKind.ofJson?_arranged (hf : Arranges f) (k : ChangeKind) :
    ofJson? (f k.toJson) = some k := by
  rw [toJson, hf.text]
  cases k <;> rfl

/-- A line of an alignment: its numbers are always members, as a number of 64 bits or as null. -/
theorem DiffLine.ofJson?_arranged (hf : Arranges f) {l : DiffLine} (h : l.IsCounted) :
    ofJson? (f l.toJson) = some l := by
  have hobject : l.toJson = .object (present [("kind", some l.kind.toJson),
      ("content", some (.text l.content)),
      ("originalLineNumber", some (l.oldLine.elim .null .number)),
      ("newLineNumber", some (l.newLine.elim .null .number))]) := by
    rw [toJson, numberOrNull_eq_elim, numberOrNull_eq_elim]
    rfl
  have hnull : ∀ n, f (.number n) ≠ .null := by
    intro n
    rw [hf.number]
    exact Json.noConfusion
  obtain ⟨r, hr, hget⟩ := Json.record?_present hf hobject
    ["kind", "content", "originalLineNumber", "newLineNumber"] 4 rfl (by decide)
  have hkind : r.required? "kind" ChangeKind.ofJson? = some l.kind :=
    Record.required?_of_get? (hget "kind") (l.kind.ofJson?_arranged hf)
  have hcontent : r.required? "content" Json.text? = some l.content :=
    r.required?_text hf (hget "content")
  have hold : r.optional? "originalLineNumber" Json.count? = some l.oldLine :=
    Record.optional?_of_elim hf (hget "originalLineNumber") hnull
      fun n hn => Json.count?_arranged hf (h.1 n hn)
  have hnew : r.optional? "newLineNumber" Json.count? = some l.newLine :=
    Record.optional?_of_elim hf (hget "newLineNumber") hnull
      fun n hn => Json.count?_arranged hf (h.2 n hn)
  rw [ofJson?, hr]
  simp only [Option.bind_eq_bind, Option.bind_some, hkind, hcontent, hold, hnew]
  rfl

/-- An alignment is the array of its lines. -/
theorem Alignment.ofJson?_arranged (hf : Arranges f) {a : Alignment} (h : a.IsCounted) :
    ofJson? (f a.toJson) = some a := by
  have hlines : Json.list? DiffLine.ofJson? (f a.toJson) = some a.lines :=
    Json.list?_arranged hf fun l hl => DiffLine.ofJson?_arranged hf (h l hl)
  rw [ofJson?, hlines]
  rfl

/-- A hunk: four counts and the lines. -/
theorem Hunk.ofJson?_arranged (hf : Arranges f) {h : Hunk} (hcounted : h.IsCounted) :
    ofJson? (f h.toJson) = some h := by
  have hobject : h.toJson = .object (present [("oldStart", some (.number h.oldStart)),
      ("oldCount", some (.number h.oldCount)), ("newStart", some (.number h.newStart)),
      ("newCount", some (.number h.newCount)),
      ("lines", some (.array (h.lines.map DiffLine.toJson)))]) := rfl
  obtain ⟨r, hr, hget⟩ := Json.record?_present hf hobject
    ["oldStart", "oldCount", "newStart", "newCount", "lines"] 5 rfl (by decide)
  have holdStart : r.required? "oldStart" Json.count? = some h.oldStart :=
    Record.required?_of_get? (hget "oldStart") (Json.count?_arranged hf hcounted.oldStart)
  have holdCount : r.required? "oldCount" Json.count? = some h.oldCount :=
    Record.required?_of_get? (hget "oldCount") (Json.count?_arranged hf hcounted.oldCount)
  have hnewStart : r.required? "newStart" Json.count? = some h.newStart :=
    Record.required?_of_get? (hget "newStart") (Json.count?_arranged hf hcounted.newStart)
  have hnewCount : r.required? "newCount" Json.count? = some h.newCount :=
    Record.required?_of_get? (hget "newCount") (Json.count?_arranged hf hcounted.newCount)
  have hlines : r.required? "lines" (Json.list? DiffLine.ofJson?) = some h.lines :=
    Record.required?_of_get? (hget "lines")
      (Json.list?_arranged hf fun l hl => DiffLine.ofJson?_arranged hf (hcounted.lines l hl))
  rw [ofJson?, hr]
  simp only [Option.bind_eq_bind, Option.bind_some, holdStart, holdCount, hnewStart, hnewCount,
    hlines]
  rfl

end Diff

/-! ## Forms, modes and tag counts -/

/-- A form has texts and lists of texts only, and none of them may be left out. -/
theorem EntryForm.ofJson?_arranged (hf : Arranges f) (x : EntryForm) :
    ofJson? (f x.toJson) = some x := by
  have hobject : x.toJson = .object (present [("title", some (.text x.title)),
      ("summary", some (.text x.summary)), ("categories", some (.array (x.categories.map .text))),
      ("tags", some (.array (x.tags.map .text))), ("content", some (.text x.content))]) := rfl
  obtain ⟨r, hr, hget⟩ := Json.record?_present hf hobject
    ["title", "summary", "categories", "tags", "content"] 5 rfl (by decide)
  have hnames : ∀ s : String, Json.text? (f (.text s)) = some s := by
    intro s
    rw [hf.text]
    rfl
  have htitle : r.required? "title" Json.text? = some x.title := r.required?_text hf (hget "title")
  have hsummary : r.required? "summary" Json.text? = some x.summary :=
    r.required?_text hf (hget "summary")
  have hcategories : r.required? "categories" (Json.list? Json.text?) = some x.categories :=
    Record.required?_of_get? (hget "categories") (Json.list?_arranged hf fun s _ => hnames s)
  have htags : r.required? "tags" (Json.list? Json.text?) = some x.tags :=
    Record.required?_of_get? (hget "tags") (Json.list?_arranged hf fun s _ => hnames s)
  have hcontent : r.required? "content" Json.text? = some x.content :=
    r.required?_text hf (hget "content")
  rw [ofJson?, hr]
  simp only [Option.bind_eq_bind, Option.bind_some, htitle, hsummary, hcategories, htags, hcontent]
  rfl

/-- A count of entries with a tag has 64 bits. -/
theorem TagCount.ofJson?_arranged (hf : Arranges f) {t : TagCount} (h : t.count ≤ Text.maxCount) :
    ofJson? (f t.toJson) = some t := by
  have hobject : t.toJson = .object (present [("name", some (.text t.name)),
      ("count", some (.number t.count))]) := rfl
  obtain ⟨r, hr, hget⟩ := Json.record?_present hf hobject ["name", "count"] 2 rfl (by decide)
  have hname : r.required? "name" Json.text? = some t.name := r.required?_text hf (hget "name")
  have hcount : r.required? "count" Json.count? = some t.count :=
    Record.required?_of_get? (hget "count") (Json.count?_arranged hf h)
  rw [ofJson?, hr]
  simp only [Option.bind_eq_bind, Option.bind_some, hname, hcount]
  rfl

/-- Members nest no deeper than allowed when each of them does. -/
theorem Json.membersHeld_of_forall {depth : Nat} {members : List (String × Json)}
    (h : ∀ m ∈ members, m.2.isHeld depth = true) : membersHeld depth members = true := by
  induction members with
  | nil => rfl
  | cons m ms ih =>
    obtain ⟨name, j⟩ := m
    rw [List.forall_mem_cons] at h
    rw [membersHeld, ih h.2, Bool.and_true]
    exact h.1

/-- The word of a mode is found wherever it stands; the other members are left for the mode. -/
theorem PreviewMode.ofJson?_object {name : String} {members rest : List (String × Json)}
    (hheld : ∀ m ∈ rest, m.2.isHeld 126 = true) (hrest : ∀ m ∈ rest, m.1 ≠ "mode")
    (hperm : members.Perm (("mode", .text name) :: rest)) :
    ∃ rest', rest'.Perm rest ∧ ofJson? (.object members) = ofNamed? name (.object rest') := by
  have hall : (Json.object members).isHeld maxDepth = true := by
    refine Json.membersHeld_of_forall fun m hm => ?_
    rcases List.mem_cons.mp (hperm.mem_iff.mp hm) with rfl | hm
    · rfl
    · exact hheld m hm
  have hword : members.filter (·.1 = "mode") = [("mode", .text name)] := by
    have hnone : rest.filter (·.1 = "mode") = [] :=
      List.filter_eq_nil_iff.mpr fun m hm => by rw [decide_eq_true_eq]; exact hrest m hm
    have hfilter := hperm.filter (·.1 = "mode")
    rw [List.filter_cons_of_pos (by simp), hnone] at hfilter
    exact List.perm_singleton.mp hfilter
  have hothers : (members.filter (·.1 ≠ "mode")).Perm rest := by
    have hself : rest.filter (·.1 ≠ "mode") = rest :=
      List.filter_eq_self.mpr fun m hm => decide_eq_true (hrest m hm)
    have hfilter := hperm.filter (·.1 ≠ "mode")
    rwa [List.filter_cons_of_neg (by simp), hself] at hfilter
  refine ⟨_, hothers, ?_⟩
  rw [ofJson?, hall]
  simp only [Bool.not_true, Bool.false_eq_true, if_false, hword]

/-- An id is a number that can be held, at whatever depth it stands. -/
theorem EntryId.isHeld_arranged (hf : Arranges f) (id : EntryId) (depth : Nat) :
    (f id.toJson).isHeld depth = true := by
  have hheld : Json.isHeldNatural id.number = true := by
    rw [Json.isHeldNatural, decide_eq_true id.bounded, Bool.true_or]
  rw [toJson, hf.number]
  unfold Json.isHeld
  exact hheld

/-- An id is never taken for an id that is absent. -/
theorem EntryId.arranged_ne_null (hf : Arranges f) (id : EntryId) : f id.toJson ≠ .null := by
  rw [toJson, hf.number]
  exact Json.noConfusion

/-- To create an entry without an id is written with null for the id. -/
theorem PreviewMode.toJson_create (id? : Option EntryId) : (create id?).toJson
    = .object [("mode", .text "create"), ("entryId", id?.elim .null EntryId.toJson)] := by
  cases id? <;> rfl

/-- The mode that creates, with and without an id. -/
theorem PreviewMode.ofJson?_create (hf : Arranges f) (id? : Option EntryId) :
    ofJson? (f (create id?).toJson) = some (create id?) := by
  have hheld : (f (id?.elim .null EntryId.toJson)).isHeld 126 = true := by
    cases id? with
    | none => rw [Option.elim_none, hf.null]; rfl
    | some id => exact id.isHeld_arranged hf 126
  obtain ⟨members, hmembers, hperm⟩ := hf.object
    [("mode", .text "create"), ("entryId", id?.elim .null EntryId.toJson)]
  rw [List.map_cons, hf.text] at hperm
  obtain ⟨rest, hrest, hmode⟩ := ofJson?_object (by simpa using hheld) (by simp) hperm
  obtain ⟨r, hr, hget⟩ := Json.record?_of_perm (by decide : ["entryId"].Nodup)
    (List.Sublist.refl _) hrest 1
  have hid : r.optional? "entryId" EntryId.ofJson? = some id? :=
    Record.optional?_of_elim hf (hget "entryId") (EntryId.arranged_ne_null hf)
      fun id _ => id.ofJson?_arranged hf
  rw [toJson_create, hmembers, hmode, ofNamed?, hr]
  simp only [Option.bind_eq_bind, Option.bind_some, hid]
  rfl

/-- The mode that edits: the id is required, and so is what becomes of the date. -/
theorem PreviewMode.ofJson?_edit (hf : Arranges f) (id : EntryId) (updateTimestamp : Bool) :
    ofJson? (f (edit id updateTimestamp).toJson) = some (edit id updateTimestamp) := by
  obtain ⟨members, hmembers, hperm⟩ := hf.object
    [("mode", .text "edit"), ("entryId", id.toJson), ("updateTimestamp", .bool updateTimestamp)]
  rw [List.map_cons, hf.text] at hperm
  have hheld : (f (.bool updateTimestamp)).isHeld 126 = true := by
    rw [hf.bool]
    rfl
  obtain ⟨rest, hrest, hmode⟩ := ofJson?_object
    (by simpa using ⟨id.isHeld_arranged hf 126, hheld⟩) (by simp) hperm
  obtain ⟨r, hr, hget⟩ := Json.record?_of_perm (by decide : ["entryId", "updateTimestamp"].Nodup)
    (List.Sublist.refl _) hrest 2
  have hid : r.required? "entryId" EntryId.ofJson? = some id :=
    Record.required?_of_get? (hget "entryId") (id.ofJson?_arranged hf)
  have hupdate : r.required? "updateTimestamp" Json.bool? = some updateTimestamp :=
    Record.required?_of_get? (hget "updateTimestamp") (by rw [hf.bool]; rfl)
  rw [toJson, hmembers, hmode, ofNamed?, hr]
  simp only [Option.bind_eq_bind, Option.bind_some, hid, hupdate]
  rfl

theorem PreviewMode.ofJson?_arranged (hf : Arranges f) (mode : PreviewMode) :
    ofJson? (f mode.toJson) = some mode := by
  cases mode with
  | create id? => exact ofJson?_create hf id?
  | edit id updateTimestamp => exact ofJson?_edit hf id updateTimestamp

/-! ## Writing -/

/-- Fields of which every one that is present can be written. -/
theorem Json.written_present {fields : List (String × Option Json)}
    (h : ∀ m ∈ fields, ∀ j ∈ m.2, Written j) : Written (.object (present fields)) := by
  refine .object fun m hm => ?_
  obtain ⟨field, hfield, hm⟩ := List.mem_flatMap.mp hm
  obtain ⟨j, hj, rfl⟩ := Option.map_eq_some_iff.mp (Option.mem_toList.mp hm)
  exact h field hfield j hj

/-- A list can be written when each of its elements can. -/
theorem Json.written_map {α : Type} {write : α → Json} (h : ∀ x, Written (write x)) (xs : List α) :
    Written (.array (xs.map write)) :=
  .array (List.forall_mem_map.mpr fun x _ => h x)

/-- An id is written as a natural number. -/
theorem EntryId.written (id : EntryId) : Written id.toJson :=
  .number id.number

theorem Category.written (c : Category) : Written c.toJson :=
  .object (by simp [Written.text])

/-- A tag is a text or two. -/
theorem Tag.written (t : Tag) : Written t.toJson := by
  rw [toJson_eq_present]
  refine Json.written_present ?_
  simp [Written.text]

theorem Metadata.written (m : Metadata) : Written m.toJson := by
  rw [toJson_eq_present]
  refine Json.written_present ?_
  simp [Written.text, Json.written_map, Category.written, Tag.written]

theorem Document.written (d : Document) : Written d.toJson :=
  .object (by simp [Written.text, Metadata.written])

theorem Entry.written (e : Entry) : Written e.toJson :=
  .object (by simp [EntryId.written, Document.written])

theorem FrontMatter.Fields.written (x : Fields) : Written x.toJson := by
  rw [toJson_eq_present]
  refine Json.written_present ?_
  simp [Written.text, Json.written_map, Category.written, Tag.written]

theorem FrontMatter.Decoded.written (d : Decoded) : Written d.toJson :=
  .object (by simp [Written.text, Fields.written])

/-- The numbers of a line are natural numbers or null. -/
theorem Diff.DiffLine.written (l : DiffLine) : Written l.toJson := by
  have hnumber : ∀ n?, Written (numberOrNull n?) := fun n? => by
    cases n? with
    | none => exact .null
    | some n => exact .number n
  exact .object (by simp [Written.text, ChangeKind.toJson, hnumber])

theorem Diff.Alignment.written (a : Alignment) : Written a.toJson :=
  Json.written_map DiffLine.written a.lines

theorem Diff.Hunk.written (h : Hunk) : Written h.toJson :=
  .object (by simp [Written.number, Json.written_map, DiffLine.written])

/-- The flag of an edit is the one truth value that is written. -/
theorem PreviewMode.written (mode : PreviewMode) : Written mode.toJson := by
  cases mode with
  | create id? =>
    cases id? with
    | none => exact .object (by simp [Written.text, Written.null])
    | some id => exact .object (by simp [Written.text, EntryId.written])
  | edit id updateTimestamp =>
    exact .object (by simp [Written.text, Written.bool, EntryId.written])

theorem EntryForm.written (x : EntryForm) : Written x.toJson :=
  .object (by simp [Written.text, Json.written_map])

theorem TagCount.written (t : TagCount) : Written t.toJson :=
  .object (by simp [Written.text, Written.number])

/-! ## Round trips -/

/-- `x` comes back from its text in either form, and also when the members of objects were put in
    the order of their names. -/
structure RoundTrips {α : Type} (toJson : α → Json) (ofJson? : Json → Option α) (x : α) : Prop where
  compact : (Json.read? (toJson x).compact).bind ofJson? = some x
  indented : (Json.read? (toJson x).indented).bind ofJson? = some x
  sortedCompact : (Json.read? (toJson x).sorted.compact).bind ofJson? = some x
  sortedIndented : (Json.read? (toJson x).sorted.indented).bind ofJson? = some x

/-- What is read from every arrangement of its members comes back from its texts. -/
theorem roundTrips_of_arranged {α : Type} {toJson : α → Json} {ofJson? : Json → Option α} {x : α}
    (hwritten : Written (toJson x))
    (h : ∀ f, Arranges f → ofJson? (f (toJson x)) = some x) : RoundTrips toJson ofJson? x where
  compact := by
    rw [Json.read?_compact hwritten]
    exact h id Json.arranges_id
  indented := by
    rw [Json.read?_indented hwritten]
    exact h id Json.arranges_id
  sortedCompact := by
    rw [Json.read?_compact (hwritten.arranged Json.arranges_sorted)]
    exact h Json.sorted Json.arranges_sorted
  sortedIndented := by
    rw [Json.read?_indented (hwritten.arranged Json.arranges_sorted)]
    exact h Json.sorted Json.arranges_sorted

open FrontMatter Diff in
/-- **Every value comes back from its JSON text.**  Line numbers and counts are of 64 bits. -/
theorem roundTrips :
    (∀ m : Metadata, RoundTrips Metadata.toJson Metadata.ofJson? m)
    ∧ (∀ x : Fields, RoundTrips Fields.toJson Fields.ofJson? x)
    ∧ (∀ d : Decoded, RoundTrips Decoded.toJson Decoded.ofJson? d)
    ∧ (∀ d : Document, RoundTrips Document.toJson Document.ofJson? d)
    ∧ (∀ e : Entry, RoundTrips Entry.toJson Entry.ofJson? e)
    ∧ (∀ a : Diff.Alignment, a.IsCounted →
      RoundTrips Diff.Alignment.toJson Diff.Alignment.ofJson? a)
    ∧ (∀ h : Hunk, h.IsCounted → RoundTrips Hunk.toJson Hunk.ofJson? h)
    ∧ (∀ mode : PreviewMode, RoundTrips PreviewMode.toJson PreviewMode.ofJson? mode)
    ∧ (∀ x : EntryForm, RoundTrips EntryForm.toJson EntryForm.ofJson? x)
    ∧ ∀ t : TagCount, t.count ≤ Text.maxCount → RoundTrips TagCount.toJson TagCount.ofJson? t :=
  ⟨fun m => roundTrips_of_arranged m.written fun _ hf => m.ofJson?_arranged hf,
    fun x => roundTrips_of_arranged x.written fun _ hf => x.ofJson?_arranged hf,
    fun d => roundTrips_of_arranged d.written fun _ hf => d.ofJson?_arranged hf,
    fun d => roundTrips_of_arranged d.written fun _ hf => d.ofJson?_arranged hf,
    fun e => roundTrips_of_arranged e.written fun _ hf => e.ofJson?_arranged hf,
    fun a h => roundTrips_of_arranged a.written fun _ hf => Diff.Alignment.ofJson?_arranged hf h,
    fun h hcounted => roundTrips_of_arranged h.written fun _ hf => Hunk.ofJson?_arranged hf hcounted,
    fun mode => roundTrips_of_arranged mode.written fun _ hf => mode.ofJson?_arranged hf,
    fun x => roundTrips_of_arranged x.written fun _ hf => x.ofJson?_arranged hf,
    fun t h => roundTrips_of_arranged t.written fun _ hf => TagCount.ofJson?_arranged hf h⟩

/-- A line with a quote, a backslash and control characters, and without a new number. -/
def sampleLine : Diff.DiffLine :=
  ⟨.deleted, "\"a\"\t\\ \x01", some 1, none⟩

/-- The one number of this line is 1. -/
theorem isCounted_sampleLine : ∀ l ∈ [sampleLine], l.IsCounted := by
  intro l hl
  rw [List.mem_singleton.mp hl]
  exact ⟨fun n hn => by cases hn; decide, fun n hn => by cases hn⟩

/-- An alignment of one line, its hunk and the greatest count come back. -/
theorem roundTrips_sampleLine :
    (Diff.Alignment.mk [sampleLine]).IsCounted
    ∧ RoundTrips Diff.Alignment.toJson Diff.Alignment.ofJson? ⟨[sampleLine]⟩
    ∧ (Diff.Hunk.mk 1 1 0 0 [sampleLine]).IsCounted
    ∧ RoundTrips Diff.Hunk.toJson Diff.Hunk.ofJson? ⟨1, 1, 0, 0, [sampleLine]⟩
    ∧ (TagCount.mk "a" Text.maxCount).count ≤ Text.maxCount
    ∧ RoundTrips TagCount.toJson TagCount.ofJson? ⟨"a", Text.maxCount⟩ := by
  have hhunk : (Diff.Hunk.mk 1 1 0 0 [sampleLine]).IsCounted :=
    ⟨by decide, by decide, by decide, by decide, isCounted_sampleLine⟩
  obtain ⟨-, -, -, -, -, halignment, hhunks, -, -, hcounts⟩ := roundTrips
  exact ⟨isCounted_sampleLine, halignment _ isCounted_sampleLine, hhunk, hhunks _ hhunk,
    Nat.le_refl _, hcounts _ (Nat.le_refl _)⟩

end Redline
