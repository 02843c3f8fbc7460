/-
  Documents that were read — what becomes of them when they are written and read again.

  Not every document can be read from a text.  No value that is read breaks its line and no name
  its list (`fitsLines_decodeDocument`); moreover, empty names are dropped and tags have no version.

  1. `BareNames m` — the names of `m` are such names.  Every setting brings in only such names, so
     they are all that a header can set (`bareNames_decodeDocument`).
  2. `reread_of_bareNames` — of metadata with bare names a written form loses little: an empty
     summary and empty dates are left out, and dates settle.
  3. The result is `reread_decodeDocument`: but for these, a document that was read comes back from
     its written form.  `reread_decodeDocument_eq_iff` says when it comes back as it is.
-/
import Redline.Proofs.FrontMatter.RoundTrip

namespace Redline.FrontMatter

/-! ## Names that can be read -/

/-- No category and no tag of `m` is without a name, and no tag has a version. -/
structure BareNames (m : Metadata) : Prop where
  categories : ∀ c ∈ m.categories, c.name ≠ ""
  tags : ∀ t ∈ m.tags, t.name ≠ "" ∧ t.version = none

/-- A list is read without its empty names. -/
theorem ne_empty_of_listNames? {value : List Char} {names : List String}
    (h : listNames? value = some names) : ∀ name ∈ names, name ≠ "" := by
  obtain ⟨inner, -, hnames⟩ := Option.bind_eq_some_iff.mp h
  obtain rfl := Option.some.inj hnames
  intro name hname hempty
  obtain ⟨cs, hcs, rfl⟩ := List.mem_map.mp hname
  have hne : cs ≠ [] := of_decide_eq_true (List.mem_filter.mp hcs).2
  have hlist := congrArg String.toList hempty
  rw [String.toList_ofList] at hlist
  exact hne hlist

/-- What a setting brings in has a name, where it is a name. -/
def Setting.NamesAll : Setting → Prop
  | .categories names | .tags names => ∀ name ∈ names, name ≠ ""
  | _ => True

theorem namesAll_of_map_listNames? (set : List String → Setting) {cs : List Char} {s : Setting}
    (hset : ∀ names, (∀ name ∈ names, name ≠ "") → (set names).NamesAll)
    (h : (listNames? cs).map set = some s) : s.NamesAll := by
  obtain ⟨names, hnames, rfl⟩ := Option.map_eq_some_iff.mp h
  exact hset names (ne_empty_of_listNames? hnames)

theorem namesAll_of_ofField? {key : String} {value : List Char} {s : Setting}
    (h : Setting.ofField? key value = some s) : s.NamesAll := by
  unfold Setting.ofField? at h
  split at h
  · cases h; trivial
  · cases h; trivial
  · exact namesAll_of_map_listNames? Setting.categories (fun _ hnames => hnames) h
  · exact namesAll_of_map_listNames? Setting.tags (fun _ hnames => hnames) h
  · cases h; trivial
  · cases h; trivial
  · cases h

/-- One line of a header sets names only where there are some. -/
theorem namesAll_of_ofLine? {line : List Char} {s : Setting} (h : Setting.ofLine? line = some s) :
    s.NamesAll := by
  obtain ⟨⟨key, value⟩, -, hfield⟩ := Option.bind_eq_some_iff.mp h
  exact namesAll_of_ofField? hfield

theorem bareNames_empty : BareNames ({} : Fields).toMetadata where
  categories := fun _ hc => absurd hc List.not_mem_nil
  tags := fun _ ht => absurd ht List.not_mem_nil

/-- **One setting** replaces a list by names that were read, or leaves the lists alone. -/
theorem bareNames_set {f : Fields} {s : Setting} (hf : BareNames f.toMetadata) (hs : s.NamesAll) :
    BareNames (f.set s).toMetadata := by
  cases s with
  | title text => exact ⟨hf.categories, hf.tags⟩
  | summary text => exact ⟨hf.categories, hf.tags⟩
  | categories names =>
    refine ⟨?_, hf.tags⟩
    intro c hc
    obtain ⟨name, hname, rfl⟩ := List.mem_map.mp (show c ∈ names.map fun name => ⟨name⟩ from hc)
    exact hs name hname
  | tags names =>
    refine ⟨hf.categories, ?_⟩
    intro t ht
    obtain ⟨name, hname, rfl⟩ := List.mem_map.mp
      (show t ∈ names.map fun name => ⟨name, none⟩ from ht)
    exact ⟨hs name hname, rfl⟩
  | date text => exact ⟨hf.categories, hf.tags⟩
  | updated text => exact ⟨hf.categories, hf.tags⟩

/-- **All names that are read are bare**, whatever the text is. -/
theorem bareNames_decodeDocument (text : String) : BareNames (decodeDocument text).metadata := by
  rw [decodeDocument, decode, decodeChars]
  split
  · exact bareNames_empty
  · refine ofLines_induction (P := fun f => BareNames f.toMetadata) bareNames_empty ?_
    rintro f s hf ⟨l, -, hline⟩
    exact bareNames_set hf (namesAll_of_ofLine? hline)

/-! ## Written and read again -/

/-- **Of metadata with bare names** the names come back, and a summary that says something. -/
theorem reread_of_bareNames {m : Metadata} (h : BareNames m) :
    reread m = { m with
      summary := m.summary.filter (· ≠ "")
      date := (m.date.filter (· ≠ "")).map settled
      updated := (m.updated.filter (· ≠ "")).map settled } := by
  have hcategories : m.categories.filter (·.name ≠ "") = m.categories := by
    rw [List.filter_eq_self]
    exact fun c hc => decide_eq_true (h.categories c hc)
  have hbare : m.tags.map (fun t => ⟨t.name, none⟩) = m.tags := by
    refine (List.map_congr_left fun t ht => ?_).trans (List.map_id m.tags)
    rw [← (h.tags t ht).2]
    rfl
  have htags : m.tags.filter (·.name ≠ "") = m.tags := by
    rw [List.filter_eq_self]
    exact fun t ht => decide_eq_true (h.tags t ht).1
  rw [reread, normalized, hbare, htags, hcategories]

/-- Nothing of `m` is lost when it is written and read again: its summary and its dates say
    something, and no date changes any more. -/
structure IsSettled (m : Metadata) : Prop where
  summary : m.summary ≠ some ""
  date : ∀ s ∈ m.date, s ≠ "" ∧ settled s = s
  updated : ∀ s ∈ m.updated, s ≠ "" ∧ settled s = s

theorem filter_ne_empty_eq_self_iff {text : Option String} :
    text.filter (· ≠ "") = text ↔ text ≠ some "" := by
  cases text with
  | none => simp
  | some s => by_cases he : s = "" <;> simp [Option.filter_some, he]

theorem map_settled_eq_self_iff {text : Option String} :
    (text.filter (· ≠ "")).map settled = text ↔ ∀ s ∈ text, s ≠ "" ∧ settled s = s := by
  cases text with
  | none => simp
  | some s => by_cases he : s = "" <;> simp [Option.filter_some, he]

theorem reread_eq_self_iff {m : Metadata} (h : BareNames m) : reread m = m ↔ IsSettled m := by
  rw [reread_of_bareNames h]
  constructor
  · intro heq
    exact ⟨filter_ne_empty_eq_self_iff.mp (congrArg Metadata.summary heq),
      map_settled_eq_self_iff.mp (congrArg Metadata.date heq),
      map_settled_eq_self_iff.mp (congrArg Metadata.updated heq)⟩
  · intro hm
    rw [filter_ne_empty_eq_self_iff.mpr hm.summary, map_settled_eq_self_iff.mpr hm.date,
      map_settled_eq_self_iff.mpr hm.updated]

/-- **A document that was read** comes back as it is exactly when it is settled. -/
theorem reread_decodeDocument_eq_iff (text : String) :
    decodeDocument (encodeDocument (decodeDocument text)) = decodeDocument text ↔
      IsSettled (decodeDocument text).metadata := by
  rw [encodeDocument, decodeDocument_encode (fitsLines_decodeDocument text),
    ← reread_eq_self_iff (bareNames_decodeDocument text)]
  exact ⟨congrArg Document.metadata, fun h => by rw [h]⟩

/-- **What was read is read again**, but for an empty summary and empty dates, which are left out,
    and for the other dates, which settle. -/
theorem reread_decodeDocument (text : String) :
    decodeDocument (encodeDocument (decodeDocument text))
      = { metadata := { (decodeDocument text).metadata with
            summary := (decodeDocument text).metadata.summary.filter (· ≠ "")
            date := ((decodeDocument text).metadata.date.filter (· ≠ "")).map settled
            updated := ((decodeDocument text).metadata.updated.filter (· ≠ "")).map settled }
          body := (decodeDocument text).body } := by
  rw [encodeDocument, decodeDocument_encode (fitsLines_decodeDocument text),
    reread_of_bareNames (bareNames_decodeDocument text)]

-- The quotes of a title are read once and for all, those of a date one pair after the other.
example : (decodeDocument (encodeDocument (decodeDocument
    "---\ntitle: \"\"a\"\"\ndate: \"\"b\"\"\n---\n"))).metadata
    = { title := "\"a\"", date := some "b" } := by cbv

end Redline.FrontMatter
