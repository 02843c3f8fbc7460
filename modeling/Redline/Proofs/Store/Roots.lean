/-
  Roots — the directory in which the directories of several stores stand next to each other.

  A store is given a root, and its directory is one name further.  The root need not be there yet.

  1. **Leading** — where a path leads to a directory, it goes on leading there (`invariant_leads`),
     and one more name leads to that name in it (`Leads.follow_concat`).
  2. **Refused paths** — a path that is never accepted leads nowhere, and nothing is made on the way
     to it (`makeDirectories_of_not_accepted`).
  3. **Missing roots** — a root that is missing can be made if its path does not go up and has no
     name that is too long (`makeDirectories_of_missing`); it is empty then, and whatever is made in
     it later comes out as if it had been there before (`Founded.makeDirectories_concat`).
-/
import Redline.Proofs.Store.Rooted

namespace Redline

/-- The path behind which a name in the directory at `p` is put: `p` without a slash at its end. -/
def FilePath.stem (p : FilePath) : FilePath :=
  if p.getLast? = some "" then p.dropLast else p

theorem FilePath.child_eq (p : FilePath) (name : String) : p.child name = p.stem ++ [name] := by
  rw [child, stem]
  split <;> rfl

namespace FileTree

variable {t t' : FileTree} {path : FilePath} {around l : Location} {name : String}

/-! ## Leading -/

/-- What stays true wherever all directories are kept is an invariant. -/
theorem invariant_of_keeps {P : FileTree → Prop}
    (h : ∀ {t t'}, P t → t.KeepsDirectories t' → P t') : Invariant P where
  makeDirectory {t t' path} ht hmake := by
    obtain ⟨l, -, hfree, rfl⟩ := makeDirectory_eq_ok hmake
    refine h ht fun l' hl' => ?_
    rw [find?_put t (ne_nil_of_find?_ne (by rw [hfree]; simp))]
    split
    · rfl
    · exact hl'
  newFile ht hnew := by
    obtain ⟨dir, name, -, -, -, hfree, -, rfl⟩ := newFile_eq_ok hnew
    refine h ht (keeps_put_file (by simp) ?_)
    rw [find?_eq_none_of_not_mem hfree]
    simp
  rename {t t' source target} ht hrename := by
    obtain ⟨l, l', content, hsource, -, hno, rfl⟩ := exists_of_rename hrename
    have hfile := (at?_eq_ok_iff.mp hsource).2
    have hl : t.find? l ≠ some .directory := by
      rw [hfile]
      simp
    have hdrop := keeps_drop_file (ne_nil_of_find?_ne hl) hl
    refine h ht fun l₁ hl₁ => keeps_put_file (ne_nil_of_find?_ne hno) ?_ l₁ (hdrop l₁ hl₁)
    rw [find?_drop t (ne_nil_of_find?_ne hl)]
    split
    · simp
    · exact hno
  remove {t t' path} ht hremove := by
    obtain ⟨l, content, hat, rfl⟩ := remove_eq_ok hremove
    have hl : t.find? l ≠ some .directory := by
      rw [(at?_eq_ok_iff.mp hat).2]
      simp
    exact h ht (keeps_drop_file (ne_nil_of_find?_ne hl) hl)

/-- The path leads to the directory at `l`. -/
structure Leads (path : FilePath) (l : Location) (t : FileTree) : Prop where
  follow : t.follow [] path = .ok l
  there : t.find? l = some .directory

/-- Where a directory is, it stays: a store never removes one. -/
theorem invariant_leads (path : FilePath) (l : Location) : Invariant (Leads path l) :=
  invariant_of_keeps fun h hkeep => ⟨follow_of_keeps hkeep h.follow, hkeep l h.there⟩

/-- Every path starts at a directory that is there. -/
theorem leads_nil (t : FileTree) : t.Leads [] [] :=
  ⟨rfl, rfl⟩

theorem leads_of_at? (h : t.at? path = .ok (l, .directory)) : t.Leads path l := by
  obtain ⟨hloc, hthere⟩ := at?_eq_ok_iff.mp h
  rw [locate_of_accepted (accepted_of_locate hloc)] at hloc
  exact ⟨hloc, hthere⟩

theorem Leads.at? (h : t.Leads path l) (hacc : Accepted path) : t.at? path = .ok (l, .directory) :=
  at?_eq_ok_iff.mpr ⟨(locate_of_accepted hacc t).trans h.follow, h.there⟩

/-- One more name leads to that name in the directory. -/
theorem Leads.follow_concat (h : t.Leads path around) (name : String) :
    t.follow [] (path ++ [name]) = enter around name := by
  rw [follow_append, h.follow]
  show t.follow around [name] = _
  rw [follow_cons, h.there]
  show (enter around name).bind .ok = _
  cases enter around name <;> rfl

theorem Leads.location (h : t.Leads path around) (hplain : IsPlain name)
    (hloc : t.locate (path ++ [name]) = .ok l) : l = around ++ [FileName.ofText name] := by
  rw [locate_of_accepted (accepted_of_locate hloc), h.follow_concat, enter_eq_ok_iff hplain] at hloc
  exact hloc.2

/-- A path that leads to a directory goes through directories. -/
theorem Leads.of_append {rest : FilePath} (h : t.Leads (path ++ rest) l) :
    ∃ l', t.Leads path l' := by
  have hfollow := h.follow
  rw [follow_append] at hfollow
  cases hpath : t.follow [] path with
  | error e => rw [hpath] at hfollow; cases hfollow
  | ok l' =>
    refine ⟨l', hpath, ?_⟩
    rw [hpath] at hfollow
    change t.follow l' rest = .ok l at hfollow
    cases rest with
    | nil =>
      cases hfollow
      exact h.there
    | cons name rest =>
      rw [follow_cons] at hfollow
      split at hfollow
      · cases hfollow
      · cases hfollow
      · assumption

/-! ## Refused paths -/

theorem makeDirectory_of_locate_error {e : FileError} (h : t.locate path = .error e) :
    t.makeDirectory path = .error e := by
  rw [makeDirectory, h]
  rfl

theorem isDirectory_of_locate_error {e : FileError} (h : t.locate path = .error e) :
    t.isDirectory path = false := by
  rw [isDirectory, at?_of_locate_error h]

theorem makeDirectories_of_locate_error {e : FileError} (h : t.locate path = .error e)
    (he : e ≠ .notFound) :
    FileAccess.makeDirectories (m := StateM FileTree) path t = (.error e, t) := by
  rw [makeDirectories_of_refused (makeDirectory_of_locate_error h) he,
    isDirectory_of_locate_error h]
  rfl

/-- **Nothing is made** where the path is not accepted. -/
theorem makeDirectories_of_not_accepted (hne : path ≠ []) (h : ¬ Accepted path) :
    ∃ e, ∀ t, FileAccess.makeDirectories (m := StateM FileTree) path t = (.error e, t) := by
  obtain ⟨e, hcause, hrefused⟩ := exists_error_of_not_accepted h
  exact ⟨e, fun t => makeDirectories_of_locate_error (hrefused t) fun he => hne (hcause he)⟩

/-- Where something stands, or nothing could, no directory is made. -/
theorem makeDirectories_of_at? (h : t.at? path ≠ .error .notFound) :
    FileAccess.makeDirectories (m := StateM FileTree) path t = (match t.at? path with
      | .ok (_, .directory) => .ok ()
      | .ok (_, .file _) => .error .alreadyExists
      | .error e => .error e, t) := by
  cases hat : t.at? path with
  | error e =>
    rw [hat] at h
    have he : e ≠ .notFound := fun heq => h (heq ▸ rfl)
    cases hloc : t.locate path with
    | error e' =>
      rw [at?_of_locate_error hloc] at hat
      cases hat
      exact makeDirectories_of_locate_error hloc he
    | ok l =>
      rw [at?_of_locate hloc] at hat
      split at hat
      · cases hat
        exact absurd rfl he
      · cases hat
  | ok found =>
    obtain ⟨l, n⟩ := found
    cases n with
    | directory => exact makeDirectories_of_directory hat
    | file content =>
      obtain ⟨hloc, hfind⟩ := at?_eq_ok_iff.mp hat
      have hmake : t.makeDirectory path = .error .alreadyExists := by
        simp only [makeDirectory, hloc, hfind, bind, Except.bind]
      have hno : t.isDirectory path = false := by
        rw [isDirectory, hat]
      rw [makeDirectories_of_refused hmake (by simp), hno]
      rfl

/-! ## Missing roots -/

theorem at?_of_makeDirectory_eq_ok (h : t.makeDirectory path = .ok t') :
    ∃ l, t'.at? path = .ok (l, .directory) := by
  have hthere := (invariant_of_keeps (P := t.KeepsDirectories)
    fun hkeep hkeep' l hl => hkeep' l (hkeep l hl)).makeDirectory (fun _ hl => hl) h
  obtain ⟨l, hloc, hfree, rfl⟩ := makeDirectory_eq_ok h
  refine ⟨l, at?_eq_ok_iff.mpr ⟨locate_of_keeps hthere hloc, ?_⟩⟩
  rw [find?_put t (ne_nil_of_find?_ne (by rw [hfree]; simp)), if_pos rfl]

theorem makeDirectory_of_at?_notFound (h : t.at? path = .error .notFound) :
    t.locate path = .error .notFound ∨ ∃ t', t.makeDirectory path = .ok t' := by
  cases hloc : t.locate path with
  | error e =>
    rw [at?_of_locate_error hloc] at h
    cases h
    exact .inl rfl
  | ok l =>
    rw [at?_of_locate hloc] at h
    cases hfind : t.find? l with
    | some n => rw [hfind] at h; cases h
    | none =>
      refine .inr ⟨t.put l .directory, ?_⟩
      simp only [makeDirectory, hloc, hfind, bind, Except.bind]

/-- A path that leads somewhere has no name that is too long. -/
theorem short_of_follow {here : Location} (h : t.follow here path = .ok l) :
    ∀ name ∈ path, name.utf8ByteSize ≤ maxNameSize := by
  induction path generalizing here with
  | nil => exact fun name hname => absurd hname List.not_mem_nil
  | cons name rest ih =>
    rw [follow_cons] at h
    split at h
    · cases h
    · cases h
    · cases henter : enter here name with
      | error e => rw [henter] at h; cases h
      | ok l' =>
        rw [henter] at h
        refine List.forall_mem_cons.mpr ⟨?_, ih h⟩
        by_contra hlong
        rw [enter] at henter
        split at henter
        · rename_i hstay
          rcases hstay with rfl | rfl <;> exact hlong (by decide)
        · split at henter
          · rename_i hup
            exact hlong (hup ▸ by decide)
          · rw [if_pos (Nat.lt_of_not_le hlong)] at henter
            cases henter

/-- A plain name may be too long, but it leads to no place that is not there. -/
theorem enter_ne_notFound {here : Location} (h : IsPlain name) :
    enter here name ≠ .error .notFound := by
  rw [enter, if_neg (not_or.mpr ⟨h.ne_empty, h.ne_dot⟩), if_neg h.ne_dots]
  split
  · simp
  · simp

/-- A name that does not go up and is not too long leads somewhere. -/
theorem exists_enter (here : Location) (hdots : name ≠ "..")
    (hshort : name.utf8ByteSize ≤ maxNameSize) : enter here name = .ok (here ++ plainNames [name]) := by
  have hsome : ∃ l, enter here name = .ok l := by
    rw [enter, if_neg hdots]
    split
    · exact ⟨_, rfl⟩
    · rw [if_neg (Nat.not_lt.mpr hshort)]
      exact ⟨_, rfl⟩
  obtain ⟨l, hl⟩ := hsome
  rw [hl, enter_eq_names hdots hl]

/-- Where one more name leads nowhere, what is missing is the directory around it. -/
theorem at?_of_locate_concat (hacc : Accepted (path ++ [name])) (hdots : name ≠ "..")
    (hshort : name.utf8ByteSize ≤ maxNameSize) (hloc : t.locate (path ++ [name]) = .error .notFound) :
    path ≠ [] ∧ t.at? path = .error .notFound := by
  rw [locate_of_accepted hacc] at hloc
  have hne : path ≠ [] := by
    rintro rfl
    rw [(leads_nil t).follow_concat, exists_enter [] hdots hshort] at hloc
    cases hloc
  refine ⟨hne, ?_⟩
  rw [follow_concat (hacc.of_concat hne)] at hloc
  cases hat : t.at? path with
  | error e =>
    rw [hat] at hloc
    cases hloc
    rfl
  | ok found =>
    obtain ⟨l, n⟩ := found
    rw [hat] at hloc
    cases n with
    | file content => cases hloc
    | directory =>
      change enter l name = _ at hloc
      rw [exists_enter l hdots hshort] at hloc
      cases hloc

/-- In an empty directory one more name leads to a directory, or one can be made there. -/
theorem cases_makeDirectory_concat {dir : Location} (hacc : Accepted (path ++ [name]))
    (hdots : name ≠ "..") (hshort : name.utf8ByteSize ≤ maxNameSize)
    (hdir : t.at? path = .ok (dir, .directory)) (hempty : ∀ x, t.find? (dir ++ [x]) = none) :
    (∃ l, t.at? (path ++ [name]) = .ok (l, .directory))
      ∨ ∃ t', t.makeDirectory (path ++ [name]) = .ok t' := by
  have hleads := leads_of_at? hdir
  have hloc : t.locate (path ++ [name]) = .ok (dir ++ plainNames [name]) := by
    rw [locate_of_accepted hacc, hleads.follow_concat, exists_enter dir hdots hshort]
  by_cases hstay : name = "" ∨ name = "."
  · have hnames : plainNames [name] = [] := by
      rcases hstay with rfl | rfl <;> rfl
    rw [hnames, List.append_nil] at hloc
    exact .inl ⟨dir, at?_eq_ok_iff.mpr ⟨hloc, hleads.there⟩⟩
  · have hnames : plainNames [name] = [FileName.ofText name] := by
      rw [plainNames, List.filter_cons_of_pos (by simpa using not_or.mp hstay)]
      rfl
    have hfree : t.at? (path ++ [name]) = .error .notFound := by
      rw [at?_of_locate hloc, hnames, hempty]
    refine .inr ((makeDirectory_of_at?_notFound hfree).resolve_left fun hno => ?_)
    rw [hloc] at hno
    cases hno

/-- **A root that is missing can be made.** -/
theorem makeDirectories_of_missing (hrooted : t.Rooted) (hacc : Accepted path) (hdots : ".." ∉ path)
    (hshort : ∀ name ∈ path, name.utf8ByteSize ≤ maxNameSize)
    (hmissing : t.at? path = .error .notFound) :
    ∃ t' l, FileAccess.makeDirectories (m := StateM FileTree) path t = (.ok (), t')
      ∧ t'.at? path = .ok (l, .directory) := by
  induction path using List.reverseRecOn with
  | nil => exact absurd rfl hacc.ne_nil
  | append_singleton path name ih =>
    simp only [List.mem_append, List.mem_singleton, not_or] at hdots
    have hname : name.utf8ByteSize ≤ maxNameSize := hshort name (by simp)
    rcases makeDirectory_of_at?_notFound hmissing with hloc | ⟨t', hmake⟩
    · obtain ⟨hne, haround⟩ := at?_of_locate_concat hacc (Ne.symm hdots.2) hname hloc
      obtain ⟨t₁, dir, hmade, hdir⟩ := ih (hacc.of_concat hne) hdots.1
        (fun part hpart => hshort part (List.mem_append_left _ hpart)) haround
      rw [makeDirectories_concat (makeDirectory_of_locate_error hloc), hmade]
      rcases cases_makeDirectory_concat hacc (Ne.symm hdots.2) hname hdir
        (find?_of_made hrooted hdots.1 haround hmade hdir) with ⟨l, hthere⟩ | ⟨t', hmake⟩
      · simp only [makeDirectory_of_directory hthere, isDirectory_iff.mpr ⟨l, hthere⟩]
        exact ⟨t₁, l, rfl, hthere⟩
      · obtain ⟨l, hthere⟩ := at?_of_makeDirectory_eq_ok hmake
        simp only [hmake]
        exact ⟨t', l, rfl, hthere⟩
    · obtain ⟨l, hdir⟩ := at?_of_makeDirectory_eq_ok hmake
      exact ⟨t', l, makeDirectories_of_makeDirectory (by simp) hmake, hdir⟩

/-- The root at `path` is missing in `t`, and `t'` is the tree after it was made, at `around`. -/
structure Founded (path : FilePath) (around : Location) (t t' : FileTree) : Prop where
  missing : t.at? path = .error .notFound
  made : FileAccess.makeDirectories (m := StateM FileTree) path t = (.ok (), t')
  there : t'.at? path = .ok (around, .directory)
  empty : ∀ name, t'.find? (around ++ [name]) = none

/-- A missing directory can be made where the path is accepted, does not go up and has no name that
    is too long. -/
theorem exists_founded (hrooted : t.Rooted) (hacc : Accepted path) (hdots : ".." ∉ path)
    (hshort : ∀ name ∈ path, name.utf8ByteSize ≤ maxNameSize)
    (hmissing : t.at? path = .error .notFound) : ∃ around t', Founded path around t t' := by
  obtain ⟨t', around, hmade, hthere⟩ :=
    makeDirectories_of_missing hrooted hacc hdots hshort hmissing
  exact ⟨around, t', hmissing, hmade, hthere,
    find?_of_made hrooted hdots hmissing hmade hthere⟩

namespace Founded

variable (h : Founded path around t t')
include h

/-- Nothing is found behind the root as long as it is missing. -/
theorem locate_concat (hacc : Accepted (path ++ [name])) :
    t.locate (path ++ [name]) = .error .notFound := by
  have hpath := accepted_of_locate (at?_eq_ok_iff.mp h.there).1
  rw [locate_of_accepted hacc, FileTree.follow_concat hpath, h.missing]
  rfl

/-- **What is made behind the root** comes out as if the root had been there. -/
theorem makeDirectories_concat (hacc : Accepted (path ++ [name])) (hplain : IsPlain name) :
    FileAccess.makeDirectories (m := StateM FileTree) (path ++ [name]) t
      = FileAccess.makeDirectories (m := StateM FileTree) (path ++ [name]) t' := by
  rw [FileTree.makeDirectories_concat (makeDirectory_of_locate_error (h.locate_concat hacc)), h.made]
  cases hmake : t'.makeDirectory (path ++ [name]) with
  | ok t₁ =>
    rw [makeDirectories_of_makeDirectory (by simp) hmake]
    simp only [hmake]
  | error e =>
    have he : e ≠ .notFound := by
      rintro rfl
      rcases makeDirectory_of_at?_notFound (at?_of_makeDirectory_notFound hmake) with
        hloc | ⟨t₁, hok⟩
      · rw [locate_of_accepted hacc, (leads_of_at? h.there).follow_concat] at hloc
        exact enter_ne_notFound hplain hloc
      · rw [hok] at hmake
        cases hmake
    rw [makeDirectories_of_refused hmake he]
    simp only [hmake]

end Founded

end FileTree

end Redline
