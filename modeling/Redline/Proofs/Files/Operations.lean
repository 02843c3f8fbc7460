/-
  Operations on file trees — what they do in one directory.

  1. **Names in a directory** — the path of a directory, with one more name, leads to that name in
     the directory (`at?_concat`), and nowhere if there is no such directory.  What it leads to
     depends on the path of the directory alone (`at?_concat_congr`).
  2. **Making a directory** — nothing changes where the directory is there already; where a
     directory could be made, it was there or nothing stood at its path.  Where the directory around
     it is missing too, that one is made first (`makeDirectories_concat`).
  3. **Replacing a file** — a new file under a temporary name, moved to its place: everything else
     stands where it stood (`find?_replaced`), and one name may be new in the directory
     (`children_replaced`).  To remove or to move fails or succeeds by what its paths lead to.
-/
import Redline.Proofs.Files.Tree
import Redline.Proofs.Text.Numeral

namespace Redline

namespace FileTree

variable {t t' : FileTree} {path : FilePath} {dir l : Location} {name : String}

/-! ## Names in a directory -/

theorem at?_of_locate (h : t.locate path = .ok l) :
    t.at? path = match t.find? l with
      | none => .error .notFound
      | some n => .ok (l, n) := by
  rw [at?, h]
  rfl

/-- A path leads to a node when it leads to a location and the node stands there. -/
theorem at?_eq_ok_iff {n : Node} :
    t.at? path = .ok (l, n) ↔ t.locate path = .ok l ∧ t.find? l = some n := by
  cases hloc : t.locate path with
  | error e => simp [at?, hloc, bind, Except.bind]
  | ok l' =>
    rw [at?_of_locate hloc]
    cases hfind : t.find? l' with
    | none =>
      constructor
      · intro h
        cases h
      · rintro ⟨hl, hn⟩
        cases hl
        rw [hfind] at hn
        cases hn
    | some n' =>
      constructor
      · intro h
        cases h
        exact ⟨rfl, hfind⟩
      · rintro ⟨hl, hn⟩
        cases hl
        rw [hfind] at hn
        cases hn
        rfl

theorem locate_of_keeps (hkeep : t.KeepsDirectories t') (h : t.locate path = .ok l) :
    t'.locate path = .ok l := by
  have hacc := accepted_of_locate h
  rw [locate_of_accepted hacc] at h ⊢
  exact follow_of_keeps hkeep h

/-- A directory stays at its path where all directories are kept. -/
theorem at?_of_keeps (hkeep : t.KeepsDirectories t') (h : t.at? path = .ok (l, .directory)) :
    t'.at? path = .ok (l, .directory) := by
  rw [at?_eq_ok_iff] at h ⊢
  exact ⟨locate_of_keeps hkeep h.1, hkeep l h.2⟩

/-- A name that a file can have: it stands for itself, and it is neither broken nor too long. -/
structure IsFileName (name : String) : Prop extends IsPlain name where
  no_nul : '\x00' ∉ name.toList
  short : name.utf8ByteSize ≤ maxNameSize

theorem text_singleton (name : String) : FilePath.text [name] = name := by
  rw [FilePath.text, List.map_singleton, Text.join_singleton, String.ofList_toList]

/-- A file name is a path of its own. -/
theorem locate_singleton (hname : IsFileName name) (t : FileTree) :
    t.locate [name] = .ok [FileName.ofText name] := by
  have hacc : Accepted [name] := {
    no_nul := fun part hpart => by rw [List.mem_singleton.mp hpart]; exact hname.no_nul
    not_long := by
      rw [isTooLong, text_singleton, decide_eq_false_iff_not]
      exact Nat.not_lt.mpr (hname.short.trans (by decide))
    ne_nil := List.cons_ne_nil _ _ }
  rw [locate_of_accepted hacc, ← List.nil_append [name], follow_concat_iff hname.toIsPlain]
  exact ⟨[], rfl, rfl, hname.short, rfl⟩

/-- A longer path is accepted as long as the system takes its length. -/
theorem Accepted.concat (h : Accepted path) (hnul : '\x00' ∉ name.toList)
    (hfit : isTooLong (path ++ [name]) = false) : Accepted (path ++ [name]) where
  no_nul := by
    intro part hpart
    rcases List.mem_append.mp hpart with hpart | hpart
    · exact h.no_nul part hpart
    · rw [List.mem_singleton.mp hpart]
      exact hnul
  not_long := hfit
  ne_nil := by simp

/-- What a path leads to that goes one name further than the path of a directory. -/
theorem locate_concat_iff (hdir : t.at? path = .ok (dir, .directory)) (hplain : IsPlain name) :
    t.locate (path ++ [name]) = .ok l ↔ Accepted (path ++ [name])
      ∧ name.utf8ByteSize ≤ maxNameSize ∧ l = dir ++ [FileName.ofText name] := by
  rw [at?_eq_ok_iff] at hdir
  have hpath := hdir.1
  rw [locate_of_accepted (accepted_of_locate hpath)] at hpath
  constructor
  · intro h
    have hacc := accepted_of_locate h
    rw [locate_of_accepted hacc, follow_concat_iff hplain] at h
    obtain ⟨dir', hdir', _, hshort, hl⟩ := h
    rw [hpath] at hdir'
    cases hdir'
    exact ⟨hacc, hshort, hl⟩
  · rintro ⟨hacc, hshort, hl⟩
    rw [locate_of_accepted hacc, follow_concat_iff hplain]
    exact ⟨dir, hpath, hdir.2, hshort, hl⟩

/-- The path of a directory, with one more name. -/
theorem locate_concat (hdir : t.at? path = .ok (dir, .directory)) (hname : IsFileName name)
    (hfit : isTooLong (path ++ [name]) = false) :
    t.locate (path ++ [name]) = .ok (dir ++ [FileName.ofText name]) := by
  have hpath := accepted_of_locate (at?_eq_ok_iff.mp hdir).1
  rw [locate_concat_iff hdir hname.toIsPlain]
  exact ⟨hpath.concat hname.no_nul hfit, hname.short, rfl⟩

/-- **A name in a directory.** -/
theorem at?_concat (hdir : t.at? path = .ok (dir, .directory)) (hname : IsFileName name)
    (hfit : isTooLong (path ++ [name]) = false) :
    t.at? (path ++ [name]) = match t.find? (dir ++ [FileName.ofText name]) with
      | none => .error .notFound
      | some n => .ok (dir ++ [FileName.ofText name], n) :=
  at?_of_locate (locate_concat hdir hname hfit)

theorem at?_of_locate_error {e : FileError} (h : t.locate path = .error e) :
    t.at? path = .error e := by
  rw [at?, h]
  rfl

theorem at?_congr_of_not_accepted (h : ¬ Accepted path) (t t' : FileTree) :
    t.at? path = t'.at? path := by
  obtain ⟨e, -, hrefused⟩ := exists_error_of_not_accepted h
  rw [at?_of_locate_error (hrefused t), at?_of_locate_error (hrefused t')]

/-- Every first part of an accepted path is accepted. -/
theorem Accepted.of_concat (h : Accepted (path ++ [name])) (hne : path ≠ []) : Accepted path where
  no_nul part hpart := h.no_nul part (List.mem_append_left _ hpart)
  not_long := by
    have hlong := h.not_long
    rw [isTooLong, decide_eq_false_iff_not, utf8ByteSize_text_concat hne] at hlong
    rw [isTooLong, decide_eq_false_iff_not]
    omega
  ne_nil := hne

/-- To follow a path and one more name is to look up that name in what stands at the path. -/
theorem follow_concat (h : Accepted path) (t : FileTree) (name : String) :
    t.follow [] (path ++ [name]) = (t.at? path).bind fun
      | (_, .file _) => .error .notADirectory
      | (l, .directory) => enter l name := by
  rw [follow_append, at?, locate_of_accepted h]
  cases t.follow [] path with
  | error e => rfl
  | ok l =>
    show t.follow l [name] = (match t.find? l with
      | none => .error .notFound
      | some n => .ok (l, n) : Except FileError (Location × Node)).bind _
    rw [follow_cons]
    cases t.find? l with
    | none => rfl
    | some n =>
      cases n with
      | file content => rfl
      | directory =>
        show (enter l name).bind .ok = enter l name
        cases enter l name <;> rfl

/-- Behind a path that is refused one more name is refused for the same cause. -/
theorem at?_concat_of_error (hne : path ≠ []) (hacc : Accepted (path ++ [name])) {e : FileError}
    (h : t.at? path = .error e) : t.at? (path ++ [name]) = .error e := by
  refine at?_of_locate_error ?_
  rw [locate_of_accepted hacc, follow_concat (hacc.of_concat hne), h]
  rfl

/-- One more name is located alike in two trees in which the same stands at the path. -/
theorem locate_concat_congr (hne : path ≠ []) (hsame : t.at? path = t'.at? path) (name : String) :
    t.locate (path ++ [name]) = t'.locate (path ++ [name]) := by
  by_cases hacc : Accepted (path ++ [name])
  · have hpath := hacc.of_concat hne
    rw [locate_of_accepted hacc, locate_of_accepted hacc, follow_concat hpath, follow_concat hpath,
      hsame]
  · obtain ⟨e, -, hrefused⟩ := exists_error_of_not_accepted hacc
    rw [hrefused, hrefused]

/-- **One more name leads to the same** in two trees in which the same stands at the path, and, if
    that is a directory, the same stands in it under the name. -/
theorem at?_concat_congr (hne : path ≠ []) (hplain : IsPlain name)
    (hsame : t.at? path = t'.at? path)
    (hfind : ∀ dir, t.at? path = .ok (dir, .directory) →
      t.find? (dir ++ [FileName.ofText name]) = t'.find? (dir ++ [FileName.ofText name])) :
    t.at? (path ++ [name]) = t'.at? (path ++ [name]) := by
  have hlocate := locate_concat_congr hne hsame name
  cases hloc : t.locate (path ++ [name]) with
  | error e => rw [at?_of_locate_error hloc, at?_of_locate_error (hlocate ▸ hloc)]
  | ok l =>
    have hacc := accepted_of_locate hloc
    have hpath := hacc.of_concat hne
    have hfollow := hloc
    rw [locate_of_accepted hacc, follow_concat_iff hplain] at hfollow
    obtain ⟨dir, hdir, hthere, -, rfl⟩ := hfollow
    rw [← locate_of_accepted hpath] at hdir
    rw [at?_of_locate hloc, at?_of_locate (hlocate ▸ hloc),
      hfind dir (at?_eq_ok_iff.mpr ⟨hdir, hthere⟩)]

/-- What stands in a directory is there with the directory. -/
theorem exists_directory_of_at?_concat {n : Node} (hne : path ≠ []) (hplain : IsPlain name)
    (h : t.at? (path ++ [name]) = .ok (l, n)) :
    ∃ dir, t.at? path = .ok (dir, .directory) ∧ l = dir ++ [FileName.ofText name] := by
  rw [at?_eq_ok_iff] at h
  have hacc := accepted_of_locate h.1
  have hfollow := h.1
  rw [locate_of_accepted hacc, follow_concat_iff hplain] at hfollow
  obtain ⟨dir, hdir, hthere, -, hl⟩ := hfollow
  have hpath : t.locate path = .ok dir :=
    (locate_of_accepted (hacc.of_concat hne) t).trans hdir
  exact ⟨dir, at?_eq_ok_iff.mpr ⟨hpath, hthere⟩, hl⟩

/-- Without the directory there is no name in it. -/
theorem at?_concat_of_missing (hacc : Accepted path) (h : t.at? path = .error .notFound)
    (hname : IsFileName name) (hfit : isTooLong (path ++ [name]) = false) :
    t.at? (path ++ [name]) = .error .notFound := by
  have hloc : t.locate (path ++ [name]) = .error .notFound := by
    rw [locate_of_accepted (hacc.concat hname.no_nul hfit), follow_append,
      ← locate_of_accepted hacc]
    cases hpath : t.locate path with
    | error e =>
      rw [at?, hpath] at h
      cases h
      rfl
    | ok l =>
      rw [at?_of_locate hpath] at h
      show t.follow l [name] = _
      rw [follow_cons]
      cases hfind : t.find? l with
      | none => rfl
      | some n => rw [hfind] at h; cases h
  rw [at?, hloc]
  rfl

/-! ## Making a directory -/

section Update

/-- An operation on a tree that succeeds leaves the tree that it gives. -/
theorem update_eq_ok_iff {α : Type} {operation : FileTree → Except FileError (α × FileTree)} {a : α} :
    update operation t = (.ok a, t') ↔ operation t = .ok (a, t') := by
  rw [update]
  constructor
  · intro h
    cases hrun : operation t with
    | error e => rw [hrun] at h; cases h
    | ok made => rw [hrun] at h; cases h; rfl
  · intro h
    rw [h]

/-- An operation on a tree that is refused leaves the tree that there was. -/
theorem update_eq_error {α : Type} {operation : FileTree → Except FileError (α × FileTree)}
    {e : FileError} (h : update operation t = (.error e, t')) : t' = t := by
  rw [update] at h
  cases hrun : operation t with
  | error e => rw [hrun] at h; cases h; rfl
  | ok made => rw [hrun] at h; cases h

variable {operation : FileTree → Except FileError FileTree}

theorem update_map_eq_ok_iff :
    update (fun t => (operation t).map ((), ·)) t = (.ok (), t') ↔ operation t = .ok t' := by
  rw [update_eq_ok_iff]
  cases operation t with
  | error e => simp [Except.map]
  | ok t₁ => simp [Except.map]

/-- A refused operation leaves the tree as it was. -/
theorem update_of_error {e : FileError} (h : operation t = .error e) :
    update (fun t => (operation t).map ((), ·)) t = (.error e, t) := by
  rw [update, h]
  rfl

end Update

/-- Whether a directory is there. -/
theorem isDirectory_iff : t.isDirectory path = true ↔ ∃ l, t.at? path = .ok (l, .directory) := by
  rw [isDirectory]
  constructor
  · intro h
    split at h
    · exact ⟨_, ‹_›⟩
    · cases h
  · rintro ⟨l, hl⟩
    rw [hl]

theorem makeDirectory_of_directory (h : t.at? path = .ok (dir, .directory)) :
    t.makeDirectory path = .error .alreadyExists := by
  rw [at?_eq_ok_iff] at h
  simp only [makeDirectory, bind, Except.bind, h.1, h.2]

/-- A directory is made where its path leads and nothing stands. -/
theorem makeDirectory_eq_ok (h : t.makeDirectory path = .ok t') :
    ∃ l, t.locate path = .ok l ∧ t.find? l = none ∧ t' = t.put l .directory := by
  cases hloc : t.locate path with
  | error e => simp [makeDirectory, hloc, bind, Except.bind] at h
  | ok l =>
    cases hfind : t.find? l with
    | none =>
      simp only [makeDirectory, hloc, hfind, bind, Except.bind] at h
      cases h
      exact ⟨l, rfl, hfind, rfl⟩
    | some n => simp [makeDirectory, hloc, hfind, bind, Except.bind] at h

/-- A directory is made only where nothing was. -/
theorem at?_of_makeDirectory_ok (h : t.makeDirectory path = .ok t') :
    t.at? path = .error .notFound := by
  obtain ⟨l, hloc, hfind, -⟩ := makeDirectory_eq_ok h
  rw [at?_of_locate hloc, hfind]

theorem at?_of_makeDirectory_notFound (h : t.makeDirectory path = .error .notFound) :
    t.at? path = .error .notFound := by
  cases hloc : t.locate path with
  | error e =>
    rw [makeDirectory, hloc] at h
    cases h
    rw [at?, hloc]
    rfl
  | ok l =>
    cases hfind : t.find? l with
    | none => simp [makeDirectory, hloc, hfind, bind, Except.bind] at h
    | some n => simp [makeDirectory, hloc, hfind, bind, Except.bind] at h

theorem acceptDirectory_run (t : FileTree) (path : FilePath) (e : FileError) :
    FileAccess.acceptDirectory (m := StateM FileTree) path e t
      = (if t.isDirectory path then .ok () else .error e, t) := by
  show (if t.isDirectory path = true then _ else _ : StateM FileTree _) t = _
  split <;> rfl

/-- Nothing is made where this is refused for another cause than that a directory is missing. -/
theorem makeDirectories_of_refused {e : FileError} (h : t.makeDirectory path = .error e)
    (he : e ≠ .notFound) : FileAccess.makeDirectories (m := StateM FileTree) path t
      = (if t.isDirectory path then .ok () else .error e, t) := by
  rw [FileAccess.makeDirectories]
  cases hp : path.reverse with
  | nil =>
    rw [List.reverse_eq_nil_iff.mp hp] at h
    cases h
    exact absurd rfl he
  | cons part outer =>
    have hpath : (part :: outer).reverse = path := by rw [← hp, List.reverse_reverse]
    have hmake : FileAccess.makeDirectory (m := StateM FileTree) path t = (.error e, t) :=
      update_of_error h
    rw [FileAccess.makeDirectoriesOf, hpath]
    simp only [bind, StateT.bind, hmake]
    exact acceptDirectory_run t path e

/-- Where the directory around is missing, it is made first. -/
theorem makeDirectories_concat (h : t.makeDirectory (path ++ [name]) = .error .notFound) :
    FileAccess.makeDirectories (m := StateM FileTree) (path ++ [name]) t
      = match FileAccess.makeDirectories (m := StateM FileTree) path t with
        | (.error e, t₁) => (.error e, t₁)
        | (.ok (), t₁) =>
          match t₁.makeDirectory (path ++ [name]) with
          | .ok t' => (.ok (), t')
          | .error e => (if t₁.isDirectory (path ++ [name]) then .ok () else .error e, t₁) := by
  have hpath : (name :: path.reverse).reverse = path ++ [name] := by
    rw [List.reverse_cons, List.reverse_reverse]
  have hmake : FileAccess.makeDirectory (m := StateM FileTree) (path ++ [name]) t
      = (.error .notFound, t) := update_of_error h
  rw [FileAccess.makeDirectories, List.reverse_concat, FileAccess.makeDirectoriesOf, hpath]
  simp only [bind, StateT.bind, hmake]
  rw [FileAccess.makeDirectories]
  generalize FileAccess.makeDirectoriesOf (m := StateM FileTree) path.reverse t = around
  obtain ⟨answer, t₁⟩ := around
  cases answer with
  | error e => rfl
  | ok done =>
    cases hlast : t₁.makeDirectory (path ++ [name]) with
    | ok t' =>
      have hrun : FileAccess.makeDirectory (m := StateM FileTree) (path ++ [name]) t₁
          = (.ok (), t') := update_map_eq_ok_iff.mpr hlast
      simp only [StateT.bind, hrun, bind, hlast]
      rfl
    | error e =>
      have hrun : FileAccess.makeDirectory (m := StateM FileTree) (path ++ [name]) t₁
          = (.error e, t₁) := update_of_error hlast
      simp only [StateT.bind, hrun, bind, hlast]
      exact acceptDirectory_run t₁ (path ++ [name]) e

/-- Nothing changes where the directory is there. -/
theorem makeDirectories_of_directory (h : t.at? path = .ok (dir, .directory)) :
    FileAccess.makeDirectories (m := StateM FileTree) path t = (.ok (), t) := by
  rw [makeDirectories_of_refused (makeDirectory_of_directory h) (by simp),
    if_pos (isDirectory_iff.mpr ⟨dir, h⟩)]

/-- One directory is made where nothing else is missing. -/
theorem makeDirectories_of_makeDirectory (hne : path ≠ []) (h : t.makeDirectory path = .ok t') :
    FileAccess.makeDirectories (m := StateM FileTree) path t = (.ok (), t') := by
  rw [FileAccess.makeDirectories]
  cases hp : path.reverse with
  | nil => exact absurd (List.reverse_eq_nil_iff.mp hp) hne
  | cons part outer =>
    have hpath : (part :: outer).reverse = path := by rw [← hp, List.reverse_reverse]
    have hmake : FileAccess.makeDirectory (m := StateM FileTree) path t = (.ok (), t') :=
      update_map_eq_ok_iff.mpr h
    rw [FileAccess.makeDirectoriesOf, hpath]
    simp only [bind, StateT.bind, hmake]
    rfl

/-- Where directories could be made, the last one was there already or was missing. -/
theorem at?_of_makeDirectories_ok
    (h : FileAccess.makeDirectories (m := StateM FileTree) path t = (.ok (), t')) :
    (∃ l, t.at? path = .ok (l, .directory)) ∨ t.at? path = .error .notFound := by
  cases hmake : t.makeDirectory path with
  | ok t₁ => exact .inr (at?_of_makeDirectory_ok hmake)
  | error e =>
    by_cases he : e = .notFound
    · rw [he] at hmake
      exact .inr (at?_of_makeDirectory_notFound hmake)
    · rw [makeDirectories_of_refused hmake he] at h
      refine .inl (isDirectory_iff.mp ?_)
      by_contra hno
      rw [if_neg hno] at h
      cases h

/-! ## Replacing a file -/

/-- A temporary name is none of the names that stand for other directories. -/
theorem isPlain_temporaryName (n : Nat) : IsPlain (FilePath.temporaryName n) := by
  refine isPlain_of_length ?_
  rw [FilePath.temporaryName, String.toList_append, List.length_append]
  exact Nat.lt_add_right _ (by decide)

/-- A temporary name is `.tmp` and digits. -/
theorem not_mem_temporaryName {c : Char} (hfront : c ∉ ".tmp".toList) (hdigit : c.isDigit = false)
    (n : Nat) : c ∉ (FilePath.temporaryName n).toList := by
  have hzero : c ≠ '0' := by
    rintro rfl
    cases hdigit
  rw [FilePath.temporaryName, String.toList_append, List.mem_append, not_or]
  refine ⟨hfront, ?_⟩
  rw [String.toList_ofList, List.mem_append, not_or]
  exact ⟨fun hc => hzero (List.eq_of_mem_replicate hc), Text.not_mem_decimal hdigit n⟩

theorem nul_not_mem_temporaryName (n : Nat) : '\x00' ∉ (FilePath.temporaryName n).toList :=
  not_mem_temporaryName (by decide) (by decide) n

theorem isFileName_temporaryName_zero : IsFileName (FilePath.temporaryName 0) where
  toIsPlain := isPlain_temporaryName 0
  no_nul := nul_not_mem_temporaryName 0
  short := by decide

/-- The name of a new file is a temporary one, and it is not taken. -/
theorem freshName?_eq_some {taken : List FileName} (h : freshName? taken = some name) :
    (∃ n, name = FilePath.temporaryName n) ∧ FileName.ofText name ∉ taken := by
  have hmem := List.mem_of_find?_eq_some h
  obtain ⟨n, -, rfl⟩ := List.mem_map.mp hmem
  have hfree := List.find?_some h
  rw [Bool.not_eq_true', ← Bool.not_eq_true, List.contains_iff_mem] at hfree
  exact ⟨⟨n, rfl⟩, hfree⟩

/-- The first temporary name is taken if it is free. -/
theorem freshName?_of_free {taken : List FileName}
    (h : FileName.ofText (FilePath.temporaryName 0) ∉ taken) :
    freshName? taken = some (FilePath.temporaryName 0) := by
  rw [freshName?, List.range_succ_eq_map, List.map_cons]
  refine List.find?_cons_of_pos ?_
  rw [Bool.not_eq_true', ← Bool.not_eq_true, List.contains_iff_mem]
  exact h

/-- The tree with a file at `name` in a directory, written under the name `temporary` first. -/
def replaced (t : FileTree) (dir : Location) (temporary name : FileName) (content : ByteArray) :
    FileTree :=
  ((t.put (dir ++ [temporary]) (.file content)).drop (dir ++ [temporary])).put (dir ++ [name])
    (.file content)

/-- Everything else stands where it stood. -/
theorem find?_replaced {temporary : FileName} (h : temporary ∉ t.children dir) (name : FileName)
    (content : ByteArray) (l : Location) :
    (t.replaced dir temporary name content).find? l
      = if l = dir ++ [name] then some (.file content) else t.find? l := by
  have hne : ∀ x : FileName, dir ++ [x] ≠ [] := fun x => by simp
  rw [replaced, find?_put _ (hne name), find?_drop _ (hne temporary), find?_put _ (hne temporary)]
  by_cases hl : l = dir ++ [temporary]
  · rw [if_pos hl, hl, find?_eq_none_of_not_mem h]
  · rw [if_neg hl, if_neg hl]

/-- The names in a directory after a file was replaced: the replaced name comes first. -/
theorem children_replaced {temporary : FileName} (h : temporary ∉ t.children dir) (name : FileName)
    (content : ByteArray) :
    (t.replaced dir temporary name content).children dir
      = name :: (t.children dir).filter (· ≠ name) := by
  have hkeep : (t.children dir).filter (· ≠ temporary) = t.children dir :=
    List.filter_eq_self.mpr fun x hx => decide_eq_true fun heq => h (heq ▸ hx)
  rw [replaced, children_put, children_drop, children_put, List.filter_cons_of_neg (by simp),
    hkeep, hkeep]

/-- A file takes the place of no directory. -/
theorem keeps_put_file {content : ByteArray} (hl : l ≠ []) (h : t.find? l ≠ some .directory) :
    t.KeepsDirectories (t.put l (.file content)) := by
  intro l' hl'
  rw [find?_put t hl, if_neg]
  · exact hl'
  · rintro rfl
    exact h hl'

theorem keeps_drop_file (hl : l ≠ []) (h : t.find? l ≠ some .directory) :
    t.KeepsDirectories (t.drop l) := by
  intro l' hl'
  rw [find?_drop t hl, if_neg]
  · exact hl'
  · rintro rfl
    exact h hl'

theorem keeps_replaced {temporary name : FileName} {content : ByteArray}
    (hfree : temporary ∉ t.children dir) (h : t.find? (dir ++ [name]) ≠ some .directory) :
    t.KeepsDirectories (t.replaced dir temporary name content) := by
  intro l hl
  rw [find?_replaced hfree, if_neg]
  · exact hl
  · rintro rfl
    exact h hl

/-- All that a new file depends on in a directory that is there: the names in it, and how long the
    path is. -/
theorem newFile_of_directory (h : t.at? path = .ok (dir, .directory)) (content : ByteArray) :
    t.newFile path content = match freshName? (t.children dir) with
      | none => .error .alreadyExists
      | some name =>
        if isTooLong (path.child name) || maxNameSize < name.utf8ByteSize then .error .nameTooLong
        else .ok (path.child name, t.put (dir ++ [FileName.ofText name]) (.file content)) := by
  rw [newFile, h]
  rfl

/-- A new file stands in the directory at `path`, under a temporary name that was free. -/
theorem newFile_eq_ok {content : ByteArray} {new : FilePath}
    (h : t.newFile path content = .ok (new, t')) :
    ∃ dir name, t.at? path = .ok (dir, .directory) ∧ IsFileName name
      ∧ isTooLong (path.child name) = false ∧ FileName.ofText name ∉ t.children dir
      ∧ new = path.child name ∧ t' = t.put (dir ++ [FileName.ofText name]) (.file content) := by
  cases hat : t.at? path with
  | error e => simp [newFile, hat, bind, Except.bind] at h
  | ok found =>
    obtain ⟨dir, n⟩ := found
    rw [newFile, hat] at h
    cases n with
    | file content => cases h
    | directory =>
      cases hname : freshName? (t.children dir) with
      | none => simp [bind, Except.bind, hname] at h
      | some name =>
        obtain ⟨⟨n, rfl⟩, hfree⟩ := freshName?_eq_some hname
        simp only [bind, Except.bind, hname] at h
        split at h
        · cases h
        · rename_i hlong
          rw [Bool.or_eq_true, not_or, Bool.not_eq_true, decide_eq_true_eq] at hlong
          cases h
          exact ⟨dir, _, rfl, ⟨isPlain_temporaryName n, nul_not_mem_temporaryName n,
            Nat.le_of_not_lt hlong.2⟩, hlong.1, hfree, rfl, rfl⟩

/-- The name of a new file is a temporary one. -/
theorem exists_temporaryName_of_newFile {content : ByteArray} {new : FilePath}
    (h : t.newFile path content = .ok (new, t')) :
    ∃ n, new = path.child (FilePath.temporaryName n) := by
  cases hat : t.at? path with
  | error e => simp [newFile, hat, bind, Except.bind] at h
  | ok found =>
    obtain ⟨dir, n⟩ := found
    rw [newFile, hat] at h
    cases n with
    | file content => cases h
    | directory =>
      cases hname : freshName? (t.children dir) with
      | none => simp [bind, Except.bind, hname] at h
      | some name =>
        obtain ⟨⟨n, rfl⟩, -⟩ := freshName?_eq_some hname
        simp only [bind, Except.bind, hname] at h
        split at h
        · cases h
        · cases h
          exact ⟨n, rfl⟩

theorem newFile_of_free {content : ByteArray} (hdir : t.at? path = .ok (dir, .directory))
    (hfree : FileName.ofText (FilePath.temporaryName 0) ∉ t.children dir)
    (hfit : isTooLong (path.child (FilePath.temporaryName 0)) = false) :
    t.newFile path content = .ok (path.child (FilePath.temporaryName 0),
      t.put (dir ++ [FileName.ofText (FilePath.temporaryName 0)]) (.file content)) := by
  have hlong : (isTooLong (path.child (FilePath.temporaryName 0))
      || maxNameSize < (FilePath.temporaryName 0).utf8ByteSize) = false := by
    rw [hfit]
    decide
  simp only [newFile, hdir, bind, Except.bind, freshName?_of_free hfree]
  rw [if_neg (by rw [hlong]; exact Bool.false_ne_true)]

theorem remove_of_file {content : ByteArray} (h : t.at? path = .ok (l, .file content)) :
    t.remove path = .ok (t.drop l) := by
  rw [remove, h]
  rfl

theorem remove_of_directory (h : t.at? path = .ok (l, .directory)) :
    t.remove path = .error .isADirectory := by
  rw [remove, h]
  rfl

theorem remove_of_error {e : FileError} (h : t.at? path = .error e) :
    t.remove path = .error e := by
  rw [remove, h]
  rfl

/-- A file is removed from where its path leads. -/
theorem remove_eq_ok (h : t.remove path = .ok t') :
    ∃ l content, t.at? path = .ok (l, .file content) ∧ t' = t.drop l := by
  cases hat : t.at? path with
  | error e => simp [remove, hat, bind, Except.bind] at h
  | ok found =>
    obtain ⟨l, n⟩ := found
    rw [remove, hat] at h
    cases n with
    | directory => cases h
    | file content =>
      cases h
      exact ⟨l, content, rfl, rfl⟩

section Rename

variable {temporary : String} {content : ByteArray}

theorem rename_of_file {source target : FilePath} {l' : Location}
    (hsource : t.at? source = .ok (l, .file content)) (htarget : t.locate target = .ok l')
    (hno : t.find? l' ≠ some .directory) :
    t.rename source target = .ok ((t.drop l).put l' (.file content)) := by
  simp only [rename, hsource, htarget, bind, Except.bind]

/-- A file is not moved onto a directory. -/
theorem rename_onto_directory {source target : FilePath} {l' : Location}
    (hsource : t.at? source = .ok (l, .file content)) (htarget : t.locate target = .ok l')
    (hthere : t.find? l' = some .directory) : t.rename source target = .error .isADirectory := by
  simp only [rename, hsource, htarget, bind, Except.bind, hthere]

theorem rename_of_locate_error {source target : FilePath} {e : FileError}
    (hsource : t.at? source = .ok (l, .file content)) (htarget : t.locate target = .error e) :
    t.rename source target = .error e := by
  simp only [rename, hsource, htarget, bind, Except.bind]

theorem rename_of_directory {source : FilePath} (h : t.at? source = .ok (l, .directory))
    (target : FilePath) : t.rename source target = .error .isADirectory := by
  rw [rename, h]
  rfl

theorem rename_of_error {source target : FilePath} {e : FileError} (h : t.at? source = .error e) :
    t.rename source target = .error e := by
  rw [rename, h]
  rfl

/-- A file is moved to where its new path leads, but not onto a directory. -/
theorem exists_of_rename {source target : FilePath} (h : t.rename source target = .ok t') :
    ∃ l l' content, t.at? source = .ok (l, .file content) ∧ t.locate target = .ok l'
      ∧ t.find? l' ≠ some .directory ∧ t' = (t.drop l).put l' (.file content) := by
  cases hat : t.at? source with
  | error e => simp [rename, hat, bind, Except.bind] at h
  | ok found =>
    obtain ⟨l, n⟩ := found
    rw [rename, hat] at h
    cases n with
    | directory => cases h
    | file content =>
      cases hloc : t.locate target with
      | error e => simp [bind, Except.bind, hloc] at h
      | ok l' =>
        simp only [bind, Except.bind, hloc] at h
        split at h
        · cases h
        · rename_i hno
          cases h
          exact ⟨l, l', content, rfl, rfl, hno, rfl⟩

/-- What a new file has become once it was moved to its place. -/
theorem rename_eq_ok (hdir : t.at? path = .ok (dir, .directory)) (htemp : IsPlain temporary)
    (hfree : FileName.ofText temporary ∉ t.children dir) (hname : IsPlain name)
    (h : (t.put (dir ++ [FileName.ofText temporary]) (.file content)).rename
      (path ++ [temporary]) (path ++ [name]) = .ok t') :
    t.find? (dir ++ [FileName.ofText name]) ≠ some .directory
      ∧ t' = t.replaced dir (FileName.ofText temporary) (FileName.ofText name) content := by
  have hnone := find?_eq_none_of_not_mem hfree
  have hkeep : t.KeepsDirectories (t.put (dir ++ [FileName.ofText temporary]) (.file content)) :=
    keeps_put_file (by simp) (by rw [hnone]; simp)
  have hdir' := at?_of_keeps hkeep hdir
  obtain ⟨l, l', content', hsource, htarget, hno, rfl⟩ := exists_of_rename h
  obtain ⟨hl, hn⟩ := at?_eq_ok_iff.mp hsource
  obtain ⟨-, -, rfl⟩ := (locate_concat_iff hdir' htemp).mp hl
  rw [find?_put _ (by simp), if_pos rfl] at hn
  cases hn
  obtain ⟨-, -, rfl⟩ := (locate_concat_iff hdir' hname).mp htarget
  exact ⟨fun hthere => hno (hkeep _ hthere), rfl⟩

/-- So it is found there. -/
theorem at?_of_rename_eq_ok (hdir : t.at? path = .ok (dir, .directory)) (htemp : IsPlain temporary)
    (hfree : FileName.ofText temporary ∉ t.children dir) (hname : IsPlain name)
    (h : (t.put (dir ++ [FileName.ofText temporary]) (.file content)).rename
      (path ++ [temporary]) (path ++ [name]) = .ok t') :
    t'.at? (path ++ [name]) = .ok (dir ++ [FileName.ofText name], .file content) := by
  have hnone := find?_eq_none_of_not_mem hfree
  have hkeep : t.KeepsDirectories (t.put (dir ++ [FileName.ofText temporary]) (.file content)) :=
    keeps_put_file (by simp) (by rw [hnone]; simp)
  obtain ⟨-, l, -, -, htarget, -⟩ := exists_of_rename h
  obtain ⟨hacc, hshort, -⟩ := (locate_concat_iff (at?_of_keeps hkeep hdir) hname).mp htarget
  obtain ⟨hthere, rfl⟩ := rename_eq_ok hdir htemp hfree hname h
  have hkeep' := @keeps_replaced t dir (FileName.ofText temporary) (FileName.ofText name) content
    hfree hthere
  rw [at?_eq_ok_iff, locate_concat_iff (at?_of_keeps hkeep' hdir) hname]
  refine ⟨⟨hacc, hshort, rfl⟩, ?_⟩
  rw [find?_replaced hfree, if_pos rfl]

/-- A new file is moved to its place where nothing is in the way. -/
theorem rename_of_free (hdir : t.at? path = .ok (dir, .directory))
    (htemp : IsFileName temporary) (hfit : isTooLong (path ++ [temporary]) = false)
    (hfree : FileName.ofText temporary ∉ t.children dir) (hname : IsFileName name)
    (hfit' : isTooLong (path ++ [name]) = false)
    (hthere : t.find? (dir ++ [FileName.ofText name]) ≠ some .directory) :
    (t.put (dir ++ [FileName.ofText temporary]) (.file content)).rename
      (path ++ [temporary]) (path ++ [name])
      = .ok (t.replaced dir (FileName.ofText temporary) (FileName.ofText name) content) := by
  have hnone := find?_eq_none_of_not_mem hfree
  have hkeep : t.KeepsDirectories (t.put (dir ++ [FileName.ofText temporary]) (.file content)) :=
    keeps_put_file (by simp) (by rw [hnone]; simp)
  have hdir' := at?_of_keeps hkeep hdir
  have hsource := at?_concat hdir' htemp hfit
  rw [find?_put _ (by simp), if_pos rfl] at hsource
  have htarget := locate_concat hdir' hname hfit'
  have hno : (t.put (dir ++ [FileName.ofText temporary]) (.file content)).find?
      (dir ++ [FileName.ofText name]) ≠ some .directory := by
    rw [find?_put _ (by simp)]
    split
    · simp
    · exact hthere
  exact rename_of_file hsource htarget hno

end Rename

end FileTree

end Redline
