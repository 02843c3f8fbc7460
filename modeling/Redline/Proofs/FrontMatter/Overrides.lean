/-
  Overrides — which line of a header decides what is read of a field.

  A header may set a field several times, and it may hold lines that set nothing.  A reader of it
  goes by the last line that sets the field.

  1. `Sets l key` — the line `l` sets the field `key`, said of the characters of the line: what stands
     in front of its first colon trims to the key, and for a list of names what stands behind it trims
     to something in brackets.  These are the lines that the program takes for settings of that
     field (`sets_iff`).
  2. `Fields.only key` — one field, cut out of all of them.  A setting replaces its own field and no
     other (`only_set`), so of one field only the lines that set it matter, and of these the last one
     (`only_ofHeader_settersOf`, `only_ofHeader_of_last`).
  3. `Rearranges` — one step of a change that no field sees: a line that sets nothing comes in, or two
     neighbours without a field in common change places.  A step keeps the lines that set a field,
     and their order (`Rearranges.settersOf_eq`); so do all headers that such steps lead to, in either
     direction.
  4. `decode_decided_by_last_lines` — the result, for every text with a header.
-/
import Redline.Proofs.FrontMatter.Grammar
import Mathlib.Logic.Relation

namespace Redline.FrontMatter

open Redline.Text (lines unlines)

/-! ## Lines that set a field -/

/-- The fields of a header. -/
inductive Key where
  | title
  | summary
  | categories
  | tags
  | date
  | updated
deriving DecidableEq

namespace Key

/-- How a field is called in a header. -/
def name : Key → String
  | title => "title"
  | summary => "summary"
  | categories => "categories"
  | tags => "tags"
  | date => "date"
  | updated => "updated"

/-- Whether the field holds a list of names. -/
def isList : Key → Bool
  | categories | tags => true
  | title | summary | date | updated => false

end Key

/-- The text `value` starts with `[` and ends with a later `]`. -/
def IsBracketed (value : List Char) : Prop :=
  ∃ inner, value = '[' :: inner ++ [']']

/-- The line `l` sets the field `key`. -/
def Sets (l : String) (key : Key) : Prop :=
  ∃ before behind, l.toList = before ++ ':' :: behind ∧ ':' ∉ before
    ∧ Text.trimmed before = key.name.toList
    ∧ (key.isList = true → IsBracketed (Text.trimmed behind))

/-- The field that a setting is one of. -/
def Setting.key : Setting → Key
  | .title _ => .title
  | .summary _ => .summary
  | .categories _ => .categories
  | .tags _ => .tags
  | .date _ => .date
  | .updated _ => .updated

theorem inBrackets?_eq_some_iff {value inner : List Char} :
    inBrackets? value = some inner ↔ value = '[' :: inner ++ [']'] := by
  constructor
  · intro h
    unfold inBrackets? at h
    split at h
    · rename_i rest
      split at h
      · rename_i hlast
        cases h
        rw [List.cons_append, List.dropLast_append_getLast? _ hlast]
      · cases h
    · cases h
  · rintro rfl
    rw [List.cons_append, inBrackets?, List.getLast?_concat, if_pos rfl, List.dropLast_concat]

theorem exists_listNames?_iff {value : List Char} :
    (∃ names, listNames? value = some names) ↔ IsBracketed value := by
  constructor
  · rintro ⟨names, h⟩
    obtain ⟨inner, hinner, -⟩ := Option.bind_eq_some_iff.mp h
    exact ⟨inner, inBrackets?_eq_some_iff.mp hinner⟩
  · rintro ⟨inner, h⟩
    exact ⟨_, Option.bind_eq_some_iff.mpr ⟨inner, inBrackets?_eq_some_iff.mpr h, rfl⟩⟩

/-- A name sets a field when it is the name of the field and the value can be read. -/
theorem exists_ofField?_iff {name : String} {value : List Char} {key : Key} :
    (∃ s, Setting.ofField? name value = some s ∧ s.key = key)
      ↔ name = key.name ∧ (key.isList = true → IsBracketed value) := by
  constructor
  · rintro ⟨s, h, rfl⟩
    unfold Setting.ofField? at h
    split at h
    · cases h
      exact ⟨rfl, fun hlist => absurd hlist Bool.false_ne_true⟩
    · cases h
      exact ⟨rfl, fun hlist => absurd hlist Bool.false_ne_true⟩
    · obtain ⟨names, hnames, rfl⟩ := Option.map_eq_some_iff.mp h
      exact ⟨rfl, fun _ => exists_listNames?_iff.mp ⟨names, hnames⟩⟩
    · obtain ⟨names, hnames, rfl⟩ := Option.map_eq_some_iff.mp h
      exact ⟨rfl, fun _ => exists_listNames?_iff.mp ⟨names, hnames⟩⟩
    · cases h
      exact ⟨rfl, fun hlist => absurd hlist Bool.false_ne_true⟩
    · cases h
      exact ⟨rfl, fun hlist => absurd hlist Bool.false_ne_true⟩
    · cases h
  · rintro ⟨rfl, hvalue⟩
    cases key with
    | title => exact ⟨_, rfl, rfl⟩
    | summary => exact ⟨_, rfl, rfl⟩
    | categories =>
      obtain ⟨names, hnames⟩ := exists_listNames?_iff.mpr (hvalue rfl)
      exact ⟨.categories names, Option.map_eq_some_iff.mpr ⟨names, hnames, rfl⟩, rfl⟩
    | tags =>
      obtain ⟨names, hnames⟩ := exists_listNames?_iff.mpr (hvalue rfl)
      exact ⟨.tags names, Option.map_eq_some_iff.mpr ⟨names, hnames, rfl⟩, rfl⟩
    | date => exact ⟨_, rfl, rfl⟩
    | updated => exact ⟨_, rfl, rfl⟩

/-- **The lines that set a field** are those that are read as a setting of it. -/
theorem sets_iff {l : String} {key : Key} :
    Sets l key ↔ ∃ s, Setting.ofLine? l.toList = some s ∧ s.key = key := by
  constructor
  · rintro ⟨before, behind, hl, hcolon, hkey, hlist⟩
    have hname : String.ofList (Text.trimmed before) = key.name := by
      rw [hkey, String.ofList_toList]
    obtain ⟨s, hs, hskey⟩ := exists_ofField?_iff.mpr ⟨hname, hlist⟩
    refine ⟨s, Option.bind_eq_some_iff.mpr ⟨(before, behind), ?_, hs⟩, hskey⟩
    exact Text.splitFirst?_eq_some_iff.mpr ⟨hl, hcolon⟩
  · rintro ⟨s, hs, hskey⟩
    obtain ⟨⟨before, behind⟩, hsplit, hfield⟩ := Option.bind_eq_some_iff.mp hs
    obtain ⟨hl, hcolon⟩ := Text.splitFirst?_eq_some_iff.mp hsplit
    obtain ⟨hname, hlist⟩ := exists_ofField?_iff.mp ⟨s, hfield, hskey⟩
    refine ⟨before, behind, hl, hcolon, ?_, hlist⟩
    rw [← hname, String.toList_ofList]

instance (l : String) (key : Key) : Decidable (Sets l key) :=
  decidable_of_iff (∃ s ∈ Setting.ofLine? l.toList, s.key = key) sets_iff.symm

/-- The lines of `hs` that set the field `key`. -/
def settersOf (key : Key) (hs : List String) : List String :=
  hs.filter fun l => Sets l key

theorem settersOf_append (key : Key) (front back : List String) :
    settersOf key (front ++ back) = settersOf key front ++ settersOf key back :=
  List.filter_append front back

theorem settersOf_cons (key : Key) (l : String) (back : List String) :
    settersOf key (l :: back) = if Sets l key then l :: settersOf key back else settersOf key back := by
  rw [settersOf, List.filter_cons]
  simp only [decide_eq_true_eq]
  rfl

/-! ## One field -/

/-- The fields `f` without all but the field `key`. -/
def Fields.only (f : Fields) : Key → Fields
  | .title => { title := f.title }
  | .summary => { summary := f.summary }
  | .categories => { categories := f.categories }
  | .tags => { tags := f.tags }
  | .date => { date := f.date }
  | .updated => { updated := f.updated }

/-- The fields are all there is. -/
theorem Fields.eq_of_only_eq {f g : Fields} (h : ∀ key, f.only key = g.only key) : f = g := by
  cases f
  cases g
  have htitle := h .title
  have hsummary := h .summary
  have hcategories := h .categories
  have htags := h .tags
  have hdate := h .date
  have hupdated := h .updated
  simp only [only, mk.injEq, and_true, true_and] at htitle hsummary hcategories htags hdate hupdated
  rw [htitle, hsummary, hcategories, htags, hdate, hupdated]

/-- **A setting replaces its own field** and no other. -/
theorem Fields.only_set (f : Fields) (s : Setting) (key : Key) :
    (f.set s).only key = if s.key = key then ({} : Fields).set s else f.only key := by
  cases s <;> cases key <;> rfl

/-- The fields that the lines `hs` set, in this order. -/
def Fields.ofHeader (hs : List String) : Fields :=
  Fields.ofLines (hs.map String.toList)

section LastLine

variable {hs front back : List String} {l : String} {key : Key}

theorem only_ofHeader_nil : (Fields.ofHeader []).only key = {} := by
  cases key <;> rfl

/-- The last line is read on top of the others. -/
theorem ofHeader_concat (hs : List String) (l : String) :
    Fields.ofHeader (hs ++ [l])
      = ((Setting.ofLine? l.toList).elim (Fields.ofHeader hs) (Fields.ofHeader hs).set) := by
  rw [Fields.ofHeader, Fields.ofLines, List.map_append, List.filterMap_append, List.foldl_append]
  cases hline : Setting.ofLine? l.toList with
  | none => simp [hline, Fields.ofHeader, Fields.ofLines]
  | some s => simp [hline, Fields.ofHeader, Fields.ofLines]

/-- A line that does not set the field leaves it alone. -/
theorem only_ofHeader_concat_of_not_sets (h : ¬ Sets l key) :
    (Fields.ofHeader (hs ++ [l])).only key = (Fields.ofHeader hs).only key := by
  rw [ofHeader_concat]
  cases hline : Setting.ofLine? l.toList with
  | none => rfl
  | some s =>
    have hne : s.key ≠ key := fun heq => h (sets_iff.mpr ⟨s, hline, heq⟩)
    rw [Option.elim_some, Fields.only_set, if_neg hne]

/-- A line that sets the field decides it, whatever stands in front of it. -/
theorem only_ofHeader_concat_of_sets (h : Sets l key) : ∃ s, Setting.ofLine? l.toList = some s
    ∧ s.key = key ∧ ∀ hs, (Fields.ofHeader (hs ++ [l])).only key = ({} : Fields).set s := by
  obtain ⟨s, hline, hkey⟩ := sets_iff.mp h
  refine ⟨s, hline, hkey, fun hs => ?_⟩
  rw [ofHeader_concat, hline, Option.elim_some, Fields.only_set, if_pos hkey]

/-- Lines behind that do not set the field leave it alone. -/
theorem only_ofHeader_append_of_not_sets (h : ∀ l ∈ back, ¬ Sets l key) :
    (Fields.ofHeader (front ++ back)).only key = (Fields.ofHeader front).only key := by
  induction back using List.reverseRecOn with
  | nil => rw [List.append_nil]
  | append_singleton back l ih =>
    rw [List.forall_mem_append, List.forall_mem_singleton] at h
    rw [← List.append_assoc, only_ofHeader_concat_of_not_sets h.2, ih h.1]

/-- A field that no line sets is not there. -/
theorem only_ofHeader_of_not_sets (h : ∀ l ∈ hs, ¬ Sets l key) :
    (Fields.ofHeader hs).only key = {} := by
  rw [← List.nil_append hs, only_ofHeader_append_of_not_sets h, only_ofHeader_nil]

/-- **The last line that sets a field** decides it. -/
theorem only_ofHeader_of_last (hl : Sets l key) (hback : ∀ l' ∈ back, ¬ Sets l' key) :
    ∃ s, Setting.ofLine? l.toList = some s ∧ s.key = key
      ∧ (Fields.ofHeader (front ++ l :: back)).only key = ({} : Fields).set s := by
  obtain ⟨s, hline, hkey, hset⟩ := only_ofHeader_concat_of_sets hl
  refine ⟨s, hline, hkey, ?_⟩
  rw [List.append_cons, only_ofHeader_append_of_not_sets hback, hset]

/-- **Of one field** only the lines matter that set it. -/
theorem only_ofHeader_settersOf (hs : List String) (key : Key) :
    (Fields.ofHeader (settersOf key hs)).only key = (Fields.ofHeader hs).only key := by
  induction hs using List.reverseRecOn with
  | nil => rfl
  | append_singleton hs l ih =>
    rw [settersOf_append, settersOf_cons]
    by_cases hl : Sets l key
    · obtain ⟨s, -, -, hset⟩ := only_ofHeader_concat_of_sets hl
      rw [if_pos hl]
      exact (hset _).trans (hset _).symm
    · rw [if_neg hl]
      show (Fields.ofHeader (settersOf key hs ++ [])).only key = _
      rw [List.append_nil, ih, only_ofHeader_concat_of_not_sets hl]

end LastLine

/-! ## Changes that no field sees -/

/-- The line `l` can stand in a header: it is one line, and not the one that closes the header. -/
def IsHeaderLine (l : String) : Prop :=
  '\n' ∉ l.toList ∧ l ≠ delimiter

/-- One step: a line that sets nothing comes in somewhere, or two neighbours that set no field in
    common change places. -/
inductive Rearranges : List String → List String → Prop where
  | insert (front back : List String) (l : String) : IsHeaderLine l → (∀ key, ¬ Sets l key) →
      Rearranges (front ++ back) (front ++ l :: back)
  | swap (front back : List String) (l l' : String) : (∀ key, ¬ (Sets l key ∧ Sets l' key)) →
      Rearranges (front ++ l :: l' :: back) (front ++ l' :: l :: back)

/-- Any number of such steps, each of them there or back. -/
def Rearranged : List String → List String → Prop :=
  Relation.EqvGen Rearranges

/-- **One step** keeps the lines that set a field, and their order. -/
theorem Rearranges.settersOf_eq {hs hs' : List String} (h : Rearranges hs hs') (key : Key) :
    settersOf key hs = settersOf key hs' := by
  cases h with
  | insert front back l _ hl =>
    rw [settersOf_append, settersOf_append, settersOf_cons, if_neg (hl key)]
  | swap front back l l' hl =>
    rw [settersOf_append, settersOf_append]
    congr 1
    -- At most one of the two is kept, so their order does not show.
    by_cases hfirst : Sets l key
    · have hsecond : ¬ Sets l' key := fun hsets => hl key ⟨hfirst, hsets⟩
      simp only [settersOf_cons, if_neg hsecond]
    · simp only [settersOf_cons, if_neg hfirst]

/-- One step keeps lines of a header lines of a header, and so does a step back. -/
theorem Rearranges.forall_isHeaderLine_iff {hs hs' : List String} (h : Rearranges hs hs') :
    (∀ l ∈ hs, IsHeaderLine l) ↔ ∀ l ∈ hs', IsHeaderLine l := by
  cases h with
  | insert front back l hl _ =>
    simp only [List.forall_mem_append, List.forall_mem_cons]
    tauto
  | swap front back l l' _ =>
    simp only [List.forall_mem_append, List.forall_mem_cons]
    tauto

namespace Rearranged

variable {hs hs' : List String}

/-- **All steps together** keep the lines that set a field, and their order. -/
theorem settersOf_eq (h : Rearranged hs hs') (key : Key) :
    settersOf key hs = settersOf key hs' := by
  induction h with
  | rel _ _ hstep => exact hstep.settersOf_eq key
  | refl _ => rfl
  | symm _ _ _ ih => exact ih.symm
  | trans _ _ _ _ _ ih ih' => exact ih.trans ih'

theorem forall_isHeaderLine_iff (h : Rearranged hs hs') :
    (∀ l ∈ hs, IsHeaderLine l) ↔ ∀ l ∈ hs', IsHeaderLine l := by
  induction h with
  | rel _ _ hstep => exact hstep.forall_isHeaderLine_iff
  | refl _ => exact Iff.rfl
  | symm _ _ _ ih => exact ih.symm
  | trans _ _ _ _ _ ih ih' => exact ih.trans ih'

/-- So they keep every field. -/
theorem ofHeader_eq (h : Rearranged hs hs') : Fields.ofHeader hs = Fields.ofHeader hs' := by
  refine Fields.eq_of_only_eq fun key => ?_
  rw [← only_ofHeader_settersOf hs, ← only_ofHeader_settersOf hs', h.settersOf_eq]

end Rearranged

/-! ## Texts with a header -/

/-- The text with the header `hs` and the lines `behind` behind it. -/
def withHeader (hs behind : List String) : String :=
  unlines (delimiter :: (hs ++ delimiter :: behind))

/-- Where no line of it is `---`, a header is closed by the line behind it. -/
theorem closesAt_append {hs : List String} (h : delimiter ∉ hs) (behind : List String) :
    ClosesAt (delimiter :: (hs ++ delimiter :: behind)) (hs.length + 1) where
  opened := rfl
  pos := Nat.succ_pos _
  closed := by simp
  first := by
    intro i hpos hlt hi
    obtain ⟨j, rfl⟩ : ∃ j, i = j + 1 := ⟨i - 1, by omega⟩
    rw [List.getElem?_cons_succ, List.getElem?_append_left (by omega)] at hi
    exact h (List.mem_of_getElem? hi)

/-- **What is read of a text** with a header: its own lines say what. -/
theorem decode_withHeader {hs behind : List String} (hhs : ∀ l ∈ hs, IsHeaderLine l)
    (hbehind : ∀ l ∈ behind, '\n' ∉ l.toList) : decode (withHeader hs behind)
      = ⟨Fields.ofHeader hs, String.ofList (withoutFirstNewline (unlines behind).toList)⟩ := by
  have hnewline : ∀ l ∈ delimiter :: (hs ++ delimiter :: behind), '\n' ∉ l.toList := by
    simp only [List.forall_mem_cons, List.forall_mem_append]
    exact ⟨by decide, fun l hl => (hhs l hl).1, by decide, hbehind⟩
  have hlines : lines (withHeader hs behind) = delimiter :: (hs ++ delimiter :: behind) :=
    Text.lines_unlines (List.cons_ne_nil _ _) hnewline
  have hcloses := closesAt_append (fun hmem => (hhs _ hmem).2 rfl) behind
  have hheader : headerOf (delimiter :: (hs ++ delimiter :: behind)) (hs.length + 1) = hs := by
    simp [headerOf]
  have hrest : behindHeader (delimiter :: (hs ++ delimiter :: behind)) (hs.length + 1)
      = behind := by
    rw [behindHeader, List.drop_succ_cons, List.drop_append]
    simp
  rw [← hlines] at hcloses
  rw [decode_of_closesAt hcloses, hlines, hheader, hrest]
  rfl

namespace ClosesAt

variable {text : String} {k : Nat}

theorem isHeaderLine (h : ClosesAt (lines text) k) :
    ∀ l ∈ headerOf (lines text) k, IsHeaderLine l := by
  intro l hl
  constructor
  · exact Text.newline_not_mem_of_mem_lines (mem_of_mem_headerOf hl)
  · intro heq
    exact h.not_mem_headerOf (heq ▸ hl)

/-- Every text with a header is one with a given header. -/
theorem withHeader_eq (h : ClosesAt (lines text) k) :
    withHeader (headerOf (lines text) k) (behindHeader (lines text) k) = text := by
  rw [withHeader, ← h.eq_append, Text.unlines_lines]

end ClosesAt

/-- **The last line that sets a field decides it.**  Of a text with a header, a field that no line of
    the header sets is not read; every other field is what the last line that sets it says, whatever
    the other lines are.  So all fields and the body stay as they are when lines that set nothing come
    into the header or go out of it, and when lines that set different fields change places. -/
theorem decode_decided_by_last_lines (text : String) (k : Nat) (h : ClosesAt (lines text) k) :
    (∀ key, (∀ l ∈ headerOf (lines text) k, ¬ Sets l key) → (decode text).fields.only key = {})
    ∧ (∀ key front l back, headerOf (lines text) k = front ++ l :: back → Sets l key →
      (∀ l' ∈ back, ¬ Sets l' key) → ∃ s, Setting.ofLine? l.toList = some s ∧ s.key = key
        ∧ (decode text).fields.only key = ({} : Fields).set s)
    ∧ ∀ hs, Rearranged (headerOf (lines text) k) hs →
      decode (withHeader hs (behindHeader (lines text) k)) = decode text := by
  have hfields : (decode text).fields = Fields.ofHeader (headerOf (lines text) k) := by
    rw [decode_of_closesAt h]
    rfl
  refine ⟨?_, ?_, ?_⟩
  · intro key hnone
    rw [hfields, only_ofHeader_of_not_sets hnone]
  · intro key front l back hheader hl hback
    rw [hfields, hheader]
    exact only_ofHeader_of_last hl hback
  · intro hs hrearranged
    have hlines := hrearranged.forall_isHeaderLine_iff.mp h.isHeaderLine
    have hbehind : ∀ l ∈ behindHeader (lines text) k, '\n' ∉ l.toList :=
      fun l hl => Text.newline_not_mem_of_mem_lines (List.mem_of_mem_drop hl)
    have hself := decode_withHeader h.isHeaderLine hbehind
    rw [h.withHeader_eq] at hself
    rw [decode_withHeader hlines hbehind, hself, hrearranged.ofHeader_eq]

/-- A text with two titles and two lines for its tags, the second of which is no list. -/
def twiceTitled : String :=
  "---\ntitle: A\ntags: [x]\ntags: y\ntitle: 'B'\n---\n\nBody"

/-- A list that cannot be read leaves the one in front of it alone, and a later title replaces an
    earlier one; a line of no field may come in, and lines of two fields may change places. -/
theorem decode_decided_by_last_lines_twiceTitled : ClosesAt (lines twiceTitled) 5
    ∧ (decode twiceTitled).fields.only .title = { title := some "B" }
    ∧ (decode twiceTitled).fields.only .tags = { tags := some [⟨"x", none⟩] }
    ∧ (decode twiceTitled).fields.only .date = {}
    ∧ decode "---\ntags: [x]\ntitle: A\nnote\ntags: y\ntitle: 'B'\n---\n\nBody"
      = decode twiceTitled := by
  have hcloses : ClosesAt (lines twiceTitled) 5 :=
    closesAt_append (by decide : delimiter ∉ ["title: A", "tags: [x]", "tags: y", "title: 'B'"])
      ["", "Body"]
  have hheader : headerOf (lines twiceTitled) 5
      = ["title: A", "tags: [x]", "tags: y", "title: 'B'"] := by decide
  have hbehind : behindHeader (lines twiceTitled) 5 = ["", "Body"] := by decide
  obtain ⟨hnone, hlast, hsame⟩ := decode_decided_by_last_lines twiceTitled 5 hcloses
  rw [hheader] at hnone hlast hsame
  rw [hbehind] at hsame
  refine ⟨hcloses, ?_, ?_, hnone .date (by decide), ?_⟩
  · obtain ⟨s, hline, -, hset⟩ := hlast .title ["title: A", "tags: [x]", "tags: y"] "title: 'B'" []
      rfl (by decide) (by decide)
    have hread : Setting.ofLine? "title: 'B'".toList = some (.title "B") := by decide
    obtain rfl := Option.some.inj (hread.symm.trans hline)
    exact hset
  · obtain ⟨s, hline, -, hset⟩ := hlast .tags ["title: A"] "tags: [x]" ["tags: y", "title: 'B'"]
      rfl (by decide) (by decide)
    have hread : Setting.ofLine? "tags: [x]".toList = some (.tags ["x"]) := by decide
    obtain rfl := Option.some.inj (hread.symm.trans hline)
    exact hset
  · have hswap : Rearranges ["title: A", "tags: [x]", "tags: y", "title: 'B'"]
        ["tags: [x]", "title: A", "tags: y", "title: 'B'"] :=
      .swap [] ["tags: y", "title: 'B'"] "title: A" "tags: [x]" (by intro key; cases key <;> decide)
    have hinsert : Rearranges ["tags: [x]", "title: A", "tags: y", "title: 'B'"]
        ["tags: [x]", "title: A", "note", "tags: y", "title: 'B'"] :=
      .insert ["tags: [x]", "title: A"] ["tags: y", "title: 'B'"] "note" ⟨by decide, by decide⟩
        (by intro key; cases key <;> decide)
    have htext : withHeader ["tags: [x]", "title: A", "note", "tags: y", "title: 'B'"] ["", "Body"]
        = "---\ntags: [x]\ntitle: A\nnote\ntags: y\ntitle: 'B'\n---\n\nBody" := by decide
    rw [← htext]
    exact hsame _ (.trans _ _ _ (.rel _ _ hswap) (.rel _ _ hinsert))

end Redline.FrontMatter
