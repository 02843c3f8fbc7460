/-
  The catalogue of a list of entries — what is in it, and in which order.

  1. **Ascending** — to put the elements of a list in ascending order keeps each of them, and once
     (`mem_ascending_iff`, `pairwise_ascending`).  The induction is on the list, and one insertion
     is a step of it.  No other ascending list has these elements, so neither their order nor how
     often they come matters (`ascending_congr`).
  2. **Counting** — so an entry has a part in the count of each name that it carries, and no more
     than one: the count of a name is the number of the entries that carry it (`mem_tagCounts_iff`).
  3. **Ranking** — the most used tags come first; among those that are used equally often, nothing
     changes places (`filter_sortByCount`).  So what was ascending by name still is, within each
     count.  `catalogues_tags` collects what holds of both orders.
  4. **Category paths** — the paths of the entries, one after another as their names are
     (`catalogues_categoryPaths`).
-/
import Mathlib.Data.List.Sort
import Redline.Store.Catalog

namespace Redline

namespace Catalog

/-! ## Ascending -/

section Ascending

variable {α : Type} [LT α] [DecidableLT α] [Std.Trichotomous (fun a b : α => a < b)]
  {x y : α} {xs ys : List α}

/-- An insertion adds one element, or none. -/
theorem mem_insertOnce_iff : y ∈ insertOnce x ys ↔ y = x ∨ y ∈ ys := by
  induction ys with
  | nil => rw [insertOnce, List.mem_singleton]; simp
  | cons first rest ih =>
    rw [insertOnce]
    split
    · rw [List.mem_cons]
    · rename_i hbelow
      split
      · rw [List.mem_cons, ih, List.mem_cons]
        exact or_left_comm
      · -- Neither is below the other, so `x` is there already.
        rename_i habove
        have heq : x = first := Std.Trichotomous.trichotomous x first hbelow habove
        rw [heq, List.mem_cons]
        constructor
        · intro h
          exact .inr h
        · rintro (h | h)
          · exact .inl h
          · exact h

theorem mem_ascending_iff : y ∈ ascending xs ↔ y ∈ xs := by
  induction xs with
  | nil => exact Iff.rfl
  | cons x xs ih =>
    rw [ascending, List.foldr_cons, mem_insertOnce_iff, List.mem_cons]
    exact or_congr_right ih

variable [Trans (fun a b : α => a < b) (fun a b : α => a < b) (fun a b : α => a < b)]

/-- An insertion keeps the order. -/
theorem pairwise_insertOnce (h : ys.Pairwise (· < ·)) :
    (insertOnce x ys).Pairwise (· < ·) := by
  induction ys with
  | nil => exact List.pairwise_singleton _ _
  | cons first rest ih =>
    obtain ⟨hfirst, hrest⟩ := List.pairwise_cons.mp h
    rw [insertOnce]
    split
    · rename_i hbelow
      refine List.pairwise_cons.mpr ⟨fun y hy => ?_, h⟩
      rcases List.mem_cons.mp hy with rfl | hy
      · exact hbelow
      · exact Std.lt_trans hbelow (hfirst y hy)
    · split
      · rename_i habove
        refine List.pairwise_cons.mpr ⟨fun y hy => ?_, ih hrest⟩
        rcases mem_insertOnce_iff.mp hy with rfl | hy
        · exact habove
        · exact hfirst y hy
      · exact h

theorem pairwise_ascending (xs : List α) : (ascending xs).Pairwise (· < ·) := by
  induction xs with
  | nil => exact .nil
  | cons x xs ih => exact pairwise_insertOnce ih

/-- Each element comes once. -/
theorem nodup_ascending [Std.Irrefl (fun a b : α => a < b)] (xs : List α) :
    (ascending xs).Nodup := by
  refine (pairwise_ascending xs).imp fun {a b} hlt heq => ?_
  rw [heq] at hlt
  exact Std.lt_irrefl hlt

/-- **The elements alone** decide what the ascending list is. -/
theorem ascending_congr [Std.Irrefl (fun a b : α => a < b)] [Std.Antisymm (fun a b : α => a < b)]
    (h : ∀ x, x ∈ xs ↔ x ∈ ys) : ascending xs = ascending ys := by
  refine (pairwise_ascending xs).eq_of_mem_iff (pairwise_ascending ys) fun x => ?_
  rw [mem_ascending_iff, mem_ascending_iff]
  exact h x

end Ascending

/-! ## Counting -/

/-- Whether an entry has a tag of the name `name`, in any version. -/
def carries (name : String) (e : Entry) : Bool :=
  name ∈ e.document.metadata.tagNames

theorem carries_iff {name : String} {e : Entry} :
    carries name e = true ↔ ∃ t ∈ e.document.metadata.tags, t.name = name := by
  rw [carries, decide_eq_true_iff, Metadata.tagNames, List.mem_map]

/-- A name comes once among those of an entry that carries it, however often it does. -/
theorem count_tagNames (name : String) (e : Entry) :
    (tagNames e).count name = if carries name e then 1 else 0 := by
  rw [tagNames, (nodup_ascending _).count]
  simp only [mem_ascending_iff, carries, decide_eq_true_iff]

/-- **To count names is to count entries.** -/
theorem count_flatMap_tagNames (name : String) (es : List Entry) :
    (es.flatMap tagNames).count name = es.countP (carries name) := by
  induction es with
  | nil => rfl
  | cons e es ih =>
    rw [List.flatMap_cons, List.count_append, count_tagNames, ih, List.countP_cons, Nat.add_comm]

/-- **What the count of a name is.** -/
theorem mem_tagCounts_iff {es : List Entry} {c : TagCount} :
    c ∈ tagCounts es ↔ c.count = es.countP (carries c.name) ∧ 0 < c.count := by
  rw [tagCounts, List.mem_map]
  constructor
  · rintro ⟨name, hname, rfl⟩
    rw [mem_ascending_iff] at hname
    exact ⟨count_flatMap_tagNames name es, List.count_pos_iff.mpr hname⟩
  · rintro ⟨hcount, hpos⟩
    rw [← count_flatMap_tagNames] at hcount
    rw [hcount, List.count_pos_iff] at hpos
    exact ⟨c.name, mem_ascending_iff.mpr hpos, by rw [← hcount]⟩

theorem pairwise_tagCounts (es : List Entry) :
    (tagCounts es).Pairwise fun a b => a.name < b.name := by
  rw [tagCounts, List.pairwise_map]
  exact pairwise_ascending _

/-- The order of the entries does not matter. -/
theorem tagCounts_perm {es es' : List Entry} (h : es.Perm es') : tagCounts es = tagCounts es' := by
  have hused : (es.flatMap tagNames).Perm (es'.flatMap tagNames) := h.flatMap_right tagNames
  have hnames : ascending (es.flatMap tagNames) = ascending (es'.flatMap tagNames) :=
    ascending_congr fun _ => hused.mem_iff
  rw [tagCounts, tagCounts, hnames]
  refine List.map_congr_left fun name _ => ?_
  rw [hused.count_eq]

/-- The tags `ts` are those of the entries `es`, by name, with their counts. -/
structure CountsTags (es : List Entry) (ts : List TagCount) : Prop where
  ascending : ts.Pairwise fun a b => a.name < b.name
  names : ∀ name, (∃ c ∈ ts, c.name = name)
    ↔ ∃ e ∈ es, ∃ t ∈ e.document.metadata.tags, t.name = name
  counts : ∀ c ∈ ts, c.count = es.countP (carries c.name)

theorem countsTags_tagCounts (es : List Entry) : CountsTags es (tagCounts es) where
  ascending := pairwise_tagCounts es
  names name := by
    simp only [← carries_iff]
    rw [← List.countP_pos_iff]
    constructor
    · rintro ⟨c, hc, rfl⟩
      obtain ⟨hcount, hpos⟩ := mem_tagCounts_iff.mp hc
      rwa [← hcount]
    · intro hpos
      exact ⟨⟨name, es.countP (carries name)⟩, mem_tagCounts_iff.mpr ⟨rfl, hpos⟩, rfl⟩
  counts _ hc := (mem_tagCounts_iff.mp hc).1

/-! ## Ranking -/

/-- The tags `ranked` are the tags `ts`, the most used first, and those that are used equally often
    in the order in which they were. -/
structure Ranks (ts ranked : List TagCount) : Prop where
  perm : ranked.Perm ts
  descending : ranked.Pairwise fun a b => b.count ≤ a.count
  stable : ∀ n, ranked.filter (fun c => c.count = n) = ts.filter fun c => c.count = n

section Ranking

variable (ts : List TagCount)

theorem count_le_trans (a b c : TagCount) (hab : decide (b.count ≤ a.count) = true)
    (hbc : decide (c.count ≤ b.count) = true) : decide (c.count ≤ a.count) = true := by
  rw [decide_eq_true_iff] at hab hbc ⊢
  exact Nat.le_trans hbc hab

theorem count_le_total (a b : TagCount) :
    (decide (b.count ≤ a.count) || decide (a.count ≤ b.count)) = true := by
  rw [Bool.or_eq_true, decide_eq_true_iff, decide_eq_true_iff]
  exact Nat.le_total b.count a.count

theorem pairwise_sortByCount : (sortByCount ts).Pairwise fun a b => b.count ≤ a.count :=
  (List.pairwise_mergeSort count_le_trans count_le_total ts).imp of_decide_eq_true

/-- **Tags that are used equally often** keep their order. -/
theorem filter_sortByCount (n : Nat) :
    (sortByCount ts).filter (fun c => c.count = n) = ts.filter fun c => c.count = n := by
  have hgroup : (ts.filter fun c => c.count = n).Pairwise
      fun a b => decide (b.count ≤ a.count) = true := by
    refine List.pairwise_of_forall_mem_list fun a ha b hb => ?_
    simp only [List.mem_filter, decide_eq_true_iff] at ha hb ⊢
    omega
  -- Such tags are in order already, so sorting leaves them a part of the list as they are.
  have hsub : (ts.filter fun c => c.count = n).Sublist (sortByCount ts) :=
    List.sublist_mergeSort count_le_trans count_le_total hgroup List.filter_sublist
  have hfiltered := hsub.filter fun c => decide (c.count = n)
  rw [List.filter_filter] at hfiltered
  simp only [Bool.and_self] at hfiltered
  refine (hfiltered.eq_of_length ?_).symm
  exact ((List.mergeSort_perm ts _).filter _).length_eq.symm

theorem ranks_sortByCount : Ranks ts (sortByCount ts) where
  perm := List.mergeSort_perm ts _
  descending := pairwise_sortByCount ts
  stable := filter_sortByCount ts

variable {ts}

/-- What is ascending by name still is among the tags of one count. -/
theorem Ranks.pairwise_name {ranked : List TagCount} (h : Ranks ts ranked)
    (hnames : ts.Pairwise fun a b => a.name < b.name) : ranked.Pairwise fun a b =>
      b.count < a.count ∨ b.count = a.count ∧ a.name < b.name := by
  rw [List.pairwise_iff_forall_sublist] at hnames ⊢
  intro a b hab
  rcases Nat.lt_or_eq_of_le (List.pairwise_iff_forall_sublist.mp h.descending hab) with hlt | heq
  · exact .inl hlt
  · -- Both are of one count, so they stood in this order before.
    have hgroup := hab.filter fun c => decide (c.count = a.count)
    rw [h.stable, List.filter_cons_of_pos (by simp), List.filter_cons_of_pos (by simp [heq]),
      List.filter_nil] at hgroup
    exact .inr ⟨heq, hnames (hgroup.trans List.filter_sublist)⟩

end Ranking

/-- **The catalogue of the tags**, by name and by count. -/
theorem catalogues_tags :
    (∀ es, CountsTags es (tagCounts es))
    ∧ (∀ es es' : List Entry, es.Perm es' → tagCounts es = tagCounts es')
    ∧ (∀ ts, Ranks ts (sortByCount ts))
    ∧ ∀ es, (sortByCount (tagCounts es)).Pairwise fun a b =>
      b.count < a.count ∨ b.count = a.count ∧ a.name < b.name :=
  ⟨countsTags_tagCounts, fun _ _ => tagCounts_perm, ranks_sortByCount,
    fun es => (ranks_sortByCount _).pairwise_name (pairwise_tagCounts es)⟩

/-- An entry of which nothing matters but its tags and its categories. -/
def labelled (categories : List Category) (tags : List Tag) : Entry :=
  ⟨EntryId.first, { metadata := { categories, tags } }⟩

/-- Two entries in either order, one of which carries two versions of a tag. -/
theorem catalogues_tags_swapped :
    tagCounts [labelled [] [⟨"lean", some "3"⟩, ⟨"lean", some "4"⟩], labelled [] [⟨"c", none⟩]]
      = tagCounts [labelled [] [⟨"c", none⟩], labelled [] [⟨"lean", some "3"⟩, ⟨"lean", some "4"⟩]]
    ∧ tagCounts [labelled [] [⟨"c", none⟩], labelled [] [⟨"lean", some "3"⟩, ⟨"lean", some "4"⟩]]
      = [⟨"c", 1⟩, ⟨"lean", 1⟩] :=
  ⟨catalogues_tags.2.1 _ _ (.swap _ _ _), by rfl⟩

/-! ## Category paths -/

theorem map_name_map_mk (path : List String) :
    (path.map fun name => (⟨name⟩ : Category)).map Category.name = path := by
  rw [List.map_map]
  exact List.map_id _

theorem map_mk_map_name (path : List Category) :
    (path.map Category.name).map (fun name => (⟨name⟩ : Category)) = path := by
  rw [List.map_map]
  exact List.map_id _

theorem pairwise_categoryPaths (es : List Entry) : (categoryPaths es).Pairwise
    fun p q => p.map Category.name < q.map Category.name := by
  rw [categoryPaths, List.pairwise_map]
  refine (pairwise_ascending _).imp fun hlt => ?_
  rwa [map_name_map_mk, map_name_map_mk]

/-- **The paths** are those of the entries, as far as they have categories. -/
theorem mem_categoryPaths_iff {es : List Entry} {path : List Category} :
    path ∈ categoryPaths es ↔ path ≠ [] ∧ ∃ e ∈ es, e.document.metadata.categories = path := by
  simp only [categoryPaths, List.mem_map, mem_ascending_iff, List.mem_filter, decide_eq_true_iff]
  constructor
  · rintro ⟨_, ⟨⟨e, he, rfl⟩, hne⟩, rfl⟩
    rw [Metadata.categoryNames] at hne ⊢
    rw [map_mk_map_name]
    exact ⟨fun hnil => hne (by rw [hnil]; rfl), e, he, rfl⟩
  · rintro ⟨hne, e, he, rfl⟩
    exact ⟨_, ⟨⟨e, he, rfl⟩, mt List.map_eq_nil_iff.mp hne⟩, map_mk_map_name _⟩

theorem nodup_categoryPaths (es : List Entry) : (categoryPaths es).Nodup := by
  refine (pairwise_categoryPaths es).imp fun {p q} hlt heq => ?_
  rw [heq] at hlt
  exact Std.lt_irrefl hlt

/-- The entries may come in any order, and more than once. -/
theorem categoryPaths_congr {es es' : List Entry} (h : ∀ e, e ∈ es ↔ e ∈ es') :
    categoryPaths es = categoryPaths es' := by
  have hpaths : ∀ path, path ∈ (es.map fun e => e.document.metadata.categoryNames).filter (· ≠ [])
      ↔ path ∈ (es'.map fun e => e.document.metadata.categoryNames).filter (· ≠ []) := by
    intro path
    simp only [List.mem_filter, List.mem_map, h]
  rw [categoryPaths, categoryPaths, ascending_congr hpaths]

/-- **The catalogue of the category paths**, in the lexicographic order of their names. -/
theorem catalogues_categoryPaths :
    (∀ es, (categoryPaths es).Pairwise fun p q => p.map Category.name < q.map Category.name)
    ∧ (∀ es path, path ∈ categoryPaths es ↔
      path ≠ [] ∧ ∃ e ∈ es, e.document.metadata.categories = path)
    ∧ (∀ es, (categoryPaths es).Nodup)
    ∧ ∀ es es' : List Entry, (∀ e, e ∈ es ↔ e ∈ es') → categoryPaths es = categoryPaths es' :=
  ⟨pairwise_categoryPaths, fun _ _ => mem_categoryPaths_iff, nodup_categoryPaths,
    fun _ _ => categoryPaths_congr⟩

/-- A path, one that it begins, and one that looks like it for a separator in a name. -/
theorem catalogues_categoryPaths_nested :
    categoryPaths [labelled [⟨"a"⟩, ⟨"b"⟩] [], labelled [⟨"a > b"⟩] [], labelled [⟨"a"⟩] []]
      = categoryPaths [labelled [⟨"a"⟩] [], labelled [⟨"a"⟩, ⟨"b"⟩] [], labelled [⟨"a > b"⟩] [],
        labelled [⟨"a"⟩] []]
    ∧ categoryPaths [labelled [⟨"a"⟩] [], labelled [⟨"a"⟩, ⟨"b"⟩] [], labelled [⟨"a > b"⟩] [],
        labelled [⟨"a"⟩] []]
      = [[⟨"a"⟩], [⟨"a"⟩, ⟨"b"⟩], [⟨"a > b"⟩]] :=
  ⟨catalogues_categoryPaths.2.2.2 _ _ (by grind), by rfl⟩

end Catalog

end Redline
