/-
  Rooted trees — what a save leaves to be found of the other entries.

  In a file system whatever stands somewhere stands in a directory.  A tree with this property is
  rooted, and every operation keeps it so.

  1. **Invariance** — nothing is put but into a directory, and nothing is dropped but a file
     (`invariant_rooted`).
  2. **Paths that do not go up** lead to the names that are written on them (`follow_eq_names`), and
     they do so wherever these are directories (`follow_of_way`).
  3. **New directories** — so to make directories along such a path changes what stands on it, and
     nothing beside it; and nothing is in a directory that was made (`find?_of_made`).
  4. **Other entries** — to save an entry changes nothing for the others, if the directory was there
     before, or its path does not go up (`answer_fetch_of_save`).  A path that goes up behind a
     missing directory may lead to one that has been there all the time.
-/
import Redline.Proofs.Store.Invariant
import Redline.Proofs.Store.Saved

namespace Redline

namespace FileTree

variable {t t' : FileTree} {path : FilePath} {here l : Location}

/-! ## Invariance -/

/-- Whatever stands somewhere stands in a directory. -/
def Rooted (t : FileTree) : Prop :=
  ∀ l, (t.find? l).isSome → t.find? l.dropLast = some .directory

theorem rooted_empty : empty.Rooted := by
  intro l hl
  by_cases hroot : l = []
  · rw [hroot]
    rfl
  · rw [find?, if_neg hroot] at hl
    cases hl

theorem ne_dropLast (h : l ≠ []) : l.dropLast ≠ l := by
  intro heq
  have hlength := congrArg List.length heq
  have hpos := List.length_pos_iff.mpr h
  rw [List.length_dropLast] at hlength
  omega

/-- Something is put into a directory, and not in the place of one that may hold something. -/
theorem Rooted.put {n : Node} (h : t.Rooted) (hl : l ≠ [])
    (hparent : t.find? l.dropLast = some .directory)
    (hn : n = .directory ∨ t.find? l ≠ some .directory) : (t.put l n).Rooted := by
  intro l' hl'
  rw [find?_put t hl] at hl' ⊢
  split at hl'
  · rename_i heq
    rw [heq, if_neg (ne_dropLast hl), hparent]
  · have hthere := h l' hl'
    split
    · rename_i heq
      rw [heq] at hthere
      rw [hn.resolve_right fun hno => hno hthere]
    · exact hthere

theorem Rooted.drop {content : ByteArray} (h : t.Rooted) (hl : l ≠ [])
    (hfile : t.find? l = some (.file content)) : (t.drop l).Rooted := by
  intro l' hl'
  rw [find?_drop t hl] at hl' ⊢
  split at hl'
  · cases hl'
  · have hthere := h l' hl'
    split
    · -- Nothing stands in a file.
      rename_i heq
      rw [heq, hfile] at hthere
      cases hthere
    · exact hthere

theorem enter_dropLast (h : t.Rooted) (hthere : t.find? here = some .directory) {name : String}
    (henter : enter here name = .ok l) : t.find? l.dropLast = some .directory := by
  have hup := h here (by rw [hthere]; rfl)
  rw [enter] at henter
  split at henter
  · cases henter
    exact hup
  · split at henter
    · cases henter
      exact h _ (by rw [hup]; rfl)
    · split at henter
      · cases henter
      · cases henter
        rw [List.dropLast_concat]
        exact hthere

/-- A path leads into a directory, whatever stands at its end. -/
theorem Rooted.follow (h : t.Rooted) (hhere : t.find? here.dropLast = some .directory)
    (hfollow : t.follow here path = .ok l) : t.find? l.dropLast = some .directory := by
  induction path generalizing here with
  | nil =>
    cases hfollow
    exact hhere
  | cons name rest ih =>
    rw [follow_cons] at hfollow
    split at hfollow
    · cases hfollow
    · cases hfollow
    · rename_i hthere
      cases henter : enter here name with
      | error e => rw [henter] at hfollow; cases hfollow
      | ok l' =>
        rw [henter] at hfollow
        exact ih (enter_dropLast h hthere henter) hfollow

theorem Rooted.locate (h : t.Rooted) (hloc : t.locate path = .ok l) :
    t.find? l.dropLast = some .directory := by
  rw [locate_of_accepted (accepted_of_locate hloc)] at hloc
  have hroot : t.find? ([] : Location).dropLast = some .directory := rfl
  exact h.follow hroot hloc

/-- **Every operation** keeps a tree rooted. -/
theorem invariant_rooted : Invariant Rooted where
  makeDirectory h hmake := by
    obtain ⟨l, hloc, hfree, rfl⟩ := makeDirectory_eq_ok hmake
    exact h.put (ne_nil_of_find?_ne (by rw [hfree]; simp)) (h.locate hloc) (.inl rfl)
  newFile h hnew := by
    obtain ⟨dir, name, hdir, -, -, hfree, -, rfl⟩ := newFile_eq_ok hnew
    refine h.put (by simp) ?_ (.inr ?_)
    · rw [List.dropLast_concat]
      exact (at?_eq_ok_iff.mp hdir).2
    · rw [find?_eq_none_of_not_mem hfree]
      simp
  rename {t t' source target} h hrename := by
    obtain ⟨l, l', content, hsource, htarget, hno, rfl⟩ := exists_of_rename hrename
    have hfile := (at?_eq_ok_iff.mp hsource).2
    have hl : l ≠ [] := ne_nil_of_find?_ne (by rw [hfile]; simp)
    have hparent := h.locate htarget
    refine (h.drop hl hfile).put (ne_nil_of_find?_ne hno) ?_ (.inr ?_)
    · rw [find?_drop t hl, if_neg]
      · exact hparent
      · intro heq
        rw [heq, hfile] at hparent
        cases hparent
    · rw [find?_drop t hl]
      split
      · simp
      · exact hno
  remove h hremove := by
    obtain ⟨l, content, hat, rfl⟩ := remove_eq_ok hremove
    have hfile := (at?_eq_ok_iff.mp hat).2
    exact h.drop (ne_nil_of_find?_ne (by rw [hfile]; simp)) hfile

/-- All that something stands in are directories. -/
theorem Rooted.find?_of_prefix (h : t.Rooted) {names : List FileName}
    (hsome : (t.find? (l ++ names)).isSome) (hne : names ≠ []) : t.find? l = some .directory := by
  induction names using List.reverseRecOn with
  | nil => exact absurd rfl hne
  | append_singleton names name ih =>
    have hdir := h _ hsome
    rw [← List.append_assoc, List.dropLast_concat] at hdir
    by_cases hnames : names = []
    · rw [hnames, List.append_nil] at hdir
      exact hdir
    · exact ih (by rw [hdir]; rfl) hnames

/-! ## Paths that do not go up -/

/-- The names on a path, without the components that stay where they are. -/
def plainNames (path : FilePath) : Location :=
  (path.filter fun name => name ≠ "" ∧ name ≠ ".").map FileName.ofText

theorem plainNames_append (p q : FilePath) : plainNames (p ++ q) = plainNames p ++ plainNames q := by
  rw [plainNames, List.filter_append, List.map_append]
  rfl

theorem enter_eq_names {name : String} (hname : name ≠ "..") (h : enter here name = .ok l) :
    l = here ++ plainNames [name] := by
  rw [enter, if_neg hname] at h
  split at h
  · rename_i hstay
    cases h
    have hnone : plainNames [name] = [] := by
      rcases hstay with rfl | rfl <;> rfl
    rw [hnone, List.append_nil]
  · rename_i hplain
    rw [not_or] at hplain
    split at h
    · cases h
    · cases h
      rw [plainNames, List.filter_cons_of_pos (by simpa using hplain)]
      rfl

/-- **A path that does not go up** leads to the names on it. -/
theorem follow_eq_names (hdots : ".." ∉ path) (h : t.follow here path = .ok l) :
    l = here ++ plainNames path := by
  induction path generalizing here with
  | nil =>
    cases h
    exact (List.append_nil _).symm
  | cons name rest ih =>
    rw [List.mem_cons, not_or] at hdots
    rw [follow_cons] at h
    split at h
    · cases h
    · cases h
    · cases henter : enter here name with
      | error e => rw [henter] at h; cases h
      | ok l' =>
        rw [henter] at h
        rw [ih hdots.2 h, enter_eq_names (Ne.symm hdots.1) henter, List.append_assoc,
          ← plainNames_append]
        rfl

/-- It leads to the same place wherever all on its way are directories. -/
theorem follow_of_way (hdots : ".." ∉ path) (h : t.follow here path = .ok l)
    (hway : ∀ p, p <+: l → t'.find? p = some .directory) : t'.follow here path = .ok l := by
  induction path generalizing here with
  | nil => exact h
  | cons name rest ih =>
    have hl := follow_eq_names hdots h
    rw [follow_cons, hway here (hl ▸ List.prefix_append _ _)]
    rw [List.mem_cons, not_or] at hdots
    rw [follow_cons] at h
    split at h
    · cases h
    · cases h
    · cases henter : enter here name with
      | error e => rw [henter] at h; cases h
      | ok l' =>
        rw [henter] at h
        exact ih hdots.2 h

/-! ## New directories -/

/-- **To make directories along such a path** changes nothing beside it. -/
theorem find?_of_makeDirectories {answer : Except FileError Unit} (hdots : ".." ∉ path)
    (h : FileAccess.makeDirectories (m := StateM FileTree) path t = (answer, t'))
    (hl : ¬ l <+: plainNames path) : t'.find? l = t.find? l := by
  have hkeep : Preserves (fun t' => t'.find? l = t.find? l)
      (FileAccess.makeDirectories path : StateM FileTree _) := by
    refine preserves_makeDirectoriesOf fun outer houter => preserves_update_map ?_
    intro t₁ t₂ hsame hmade
    obtain ⟨l₁, hloc, hfree, rfl⟩ := makeDirectory_eq_ok hmade
    -- The directory that is made is one on the way.
    obtain ⟨inner, hinner⟩ : outer.reverse <+: path := List.reverse_suffix.mp (by simpa using houter)
    rw [locate_of_accepted (accepted_of_locate hloc)] at hloc
    have hnames := follow_eq_names (fun hmem => hdots (hinner ▸ List.mem_append_left _ hmem)) hloc
    have hprefix : l₁ <+: plainNames path := by
      rw [← hinner, plainNames_append, hnames, List.nil_append]
      exact List.prefix_append _ _
    rw [find?_put t₁ (ne_nil_of_find?_ne (by rw [hfree]; simp)), if_neg]
    · exact hsame
    · rintro rfl
      exact hl hprefix
  have hsame := hkeep t rfl
  rwa [h] at hsame

/-- **In a directory that was made** there is nothing. -/
theorem find?_of_made {dir : Location} (hrooted : t.Rooted) (hdots : ".." ∉ path)
    (hmissing : t.at? path = .error .notFound)
    (hmake : FileAccess.makeDirectories (m := StateM FileTree) path t = (.ok (), t'))
    (hdir : t'.at? path = .ok (dir, .directory)) (name : FileName) :
    t'.find? (dir ++ [name]) = none := by
  obtain ⟨hloc, -⟩ := at?_eq_ok_iff.mp hdir
  have hacc := accepted_of_locate hloc
  rw [locate_of_accepted hacc] at hloc
  have hnames : dir = plainNames path := follow_eq_names hdots hloc
  have hbeside : ¬ dir ++ [name] <+: plainNames path := by
    intro hprefix
    have hlength := hprefix.length_le
    rw [← hnames, List.length_append, List.length_singleton] at hlength
    omega
  rw [find?_of_makeDirectories hdots hmake hbeside]
  cases hfind : t.find? (dir ++ [name]) with
  | none => rfl
  | some n =>
    -- Then the directory was there before, and the path led to it.
    have hway : ∀ p, p <+: dir → t.find? p = some .directory := by
      rintro p ⟨rest, rfl⟩
      rw [List.append_assoc] at hfind
      exact hrooted.find?_of_prefix (by rw [hfind]; rfl) (by simp)
    have hthere : t.at? path = .ok (dir, .directory) := by
      rw [at?_eq_ok_iff, locate_of_accepted hacc]
      exact ⟨follow_of_way hdots hloc hway, hway dir List.prefix_rfl⟩
    rw [hmissing] at hthere
    cases hthere

end FileTree

/-! ## Other entries -/

namespace Directory

open FileTree (Rooted)

variable {d : Directory} {t t' : FileTree} {id id' : EntryId} {document : Document} {e : Entry}

/-- An entry is looked for alike where the directory is missing and where it is empty. -/
theorem at?_entryPath_of_made {dir : Location} (hmissing : t.at? d.path = .error .notFound)
    (hdir : t'.at? d.path = .ok (dir, .directory))
    (hnone : t'.find? (dir ++ [entryName id]) = none) :
    t.at? (d.entryPath id) = t'.at? (d.entryPath id) := by
  have hacc := FileTree.accepted_of_locate (FileTree.at?_eq_ok_iff.mp hdir).1
  rw [d.entryPath_eq]
  cases hfit : FileTree.isTooLong (d.path ++ [fileName id]) with
  | false =>
    have hname := isFileName_fileName id
    have hbefore := FileTree.at?_concat_of_missing hacc hmissing hname hfit
    have hafter := FileTree.at?_concat hdir hname hfit
    rw [← entryName, hnone] at hafter
    rw [hbefore, hafter]
  | true =>
    -- Such a path is refused wherever it would lead.
    refine FileTree.at?_congr_of_not_accepted (fun hname => ?_) t t'
    rw [hname.not_long] at hfit
    cases hfit

/-- **A save leaves all other entries as they are found**, if the directory was there before or its
    path does not go up. -/
theorem answer_fetch_of_save (hrooted : t.Rooted)
    (h : outcome (d.save (some id) document) t = (.ok e, t'))
    (hthere : (∃ dir, t.at? d.path = .ok (dir, .directory)) ∨ ".." ∉ d.path) (hne : id' ≠ id) :
    (outcome (d.fetch id') t).1 = (outcome (d.fetch id') t').1 := by
  obtain ⟨-, t₁, dir, temporary, hmake, hdir, hfree, hplace, rfl, -⟩ :=
    exists_replaced_of_outcome_save h
  refine answer_fetch_congr ?_
  rw [at?_entryPath_replaced hdir hfree hplace hne]
  rcases FileTree.at?_of_makeDirectories_ok hmake with ⟨l, hold⟩ | hmissing
  · rw [FileTree.makeDirectories_of_directory hold] at hmake
    cases hmake
    rfl
  · have hdots : ".." ∉ d.path := by
      refine hthere.resolve_left ?_
      rintro ⟨l, hl⟩
      rw [hmissing] at hl
      cases hl
    exact at?_entryPath_of_made hmissing hdir
      (FileTree.find?_of_made hrooted hdots hmissing hmake hdir _)

end Directory

/-! ## A path that goes up -/

/-- A directory whose path goes up behind a first name. -/
def Directory.upward : Directory :=
  ⟨["a", "..", "b"], Directory.defaultTenant, Directory.isTenantName_defaultTenant⟩

/-- A tree with a second entry in that directory, but without the directory behind which the path
    goes up. -/
def FileTree.upward : FileTree :=
  ((FileTree.empty.put [FileName.ofText "b"] .directory).put
    [FileName.ofText "b", FileName.ofText "_"] .directory).put
    [FileName.ofText "b", FileName.ofText "_", Directory.entryName EntryId.first.next]
    (.file "Two".toUTF8)

theorem FileTree.rooted_upward : FileTree.upward.Rooted := by
  have hfree : ((FileTree.empty.put [FileName.ofText "b"] .directory).put
      [FileName.ofText "b", FileName.ofText "_"] .directory).find?
      [FileName.ofText "b", FileName.ofText "_", Directory.entryName EntryId.first.next]
      ≠ some .directory := by
    intro h
    cases h
  exact ((FileTree.rooted_empty.put (by decide) rfl (.inl rfl)).put (by decide) rfl (.inl rfl)).put
    (by decide) (by rfl) (.inr hfree)

end Redline
