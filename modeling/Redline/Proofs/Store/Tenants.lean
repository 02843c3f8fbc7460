/-
  Tenants — what the store of one tenant goes by, and what the others leave alone.

  Under a root that is there:

  1. **Below a location** — two trees may have the same at a location and below it; they still have
     if both are changed alike, or one of them is changed elsewhere.
  2. **One tenant** — all that a store goes by is what stands below its own directory: in two trees
     with the same there (`Alike`) it answers alike, and it leaves two trees with the same there
     again (`Alike.agrees`).
  3. **The others** — what they do stays below their own directories (`preserves_call_alike`).
-/
import Redline.Proofs.Store.Closed

namespace Redline

namespace FileTree

variable {t t' : FileTree} {home l : Location} {path : FilePath}

/-! ## Below a location -/

/-- In both trees the same stands at `home` and below it, in the same order. -/
structure SameBelow (home : Location) (t t' : FileTree) : Prop where
  find : ∀ names, t.find? (home ++ names) = t'.find? (home ++ names)
  children : t.children home = t'.children home

/-- A tree and itself. -/
theorem SameBelow.refl (home : Location) (t : FileTree) : SameBelow home t t :=
  ⟨fun _ => rfl, rfl⟩

/-- The same is put into both trees. -/
theorem SameBelow.put (h : SameBelow home t t') (hl : l ≠ []) (n : Node) :
    SameBelow home (t.put l n) (t'.put l n) where
  find names := by
    rw [find?_put t hl, find?_put t' hl, h.find]
  children := by
    by_cases hin : ∃ name, l = home ++ [name]
    · obtain ⟨name, rfl⟩ := hin
      rw [children_put, children_put, h.children]
    · rw [children_put_outside t (not_exists.mp hin), children_put_outside t' (not_exists.mp hin),
        h.children]

/-- The same is taken out of both trees. -/
theorem SameBelow.drop (h : SameBelow home t t') (hl : l ≠ []) :
    SameBelow home (t.drop l) (t'.drop l) where
  find names := by
    rw [find?_drop t hl, find?_drop t' hl, h.find]
  children := by
    by_cases hin : ∃ name, l = home ++ [name]
    · obtain ⟨name, rfl⟩ := hin
      rw [children_drop, children_drop, h.children]
    · rw [children_drop_outside t (not_exists.mp hin), children_drop_outside t' (not_exists.mp hin),
        h.children]

/-- What does not stand below `home` is none of the places there. -/
theorem ne_append_of_beside (h : ¬ home <+: l) (names : Location) : l ≠ home ++ names :=
  fun heq => h (heq ▸ List.prefix_append home names)

/-- Something is put into one of the trees, but not below `home`. -/
theorem SameBelow.put_beside (h : SameBelow home t t') (hl : l ≠ []) (hbeside : ¬ home <+: l)
    (n : Node) : SameBelow home (t.put l n) t' where
  find names := by
    rw [find?_put t hl, if_neg (ne_append_of_beside hbeside names).symm, h.find]
  children := by
    rw [children_put_outside t fun name => ne_append_of_beside hbeside [name], h.children]

/-- Something is taken out of one of the trees, but not below `home`. -/
theorem SameBelow.drop_beside (h : SameBelow home t t') (hl : l ≠ []) (hbeside : ¬ home <+: l) :
    SameBelow home (t.drop l) t' where
  find names := by
    rw [find?_drop t hl, if_neg (ne_append_of_beside hbeside names).symm, h.find]
  children := by
    rw [children_drop_outside t fun name => ne_append_of_beside hbeside [name], h.children]

end FileTree

namespace Directory

open FileTree (SameBelow)

variable {d : Directory} {t t' : FileTree} {around l : Location} {path : FilePath}

/-! ## One tenant -/

/-- In both trees the root is at `around`, and the same stands below the directory of `tenant`. -/
structure Alike (root : FilePath) (around : Location) (tenant : String) (t t' : FileTree) : Prop where
  left : t.Leads root.stem around
  right : t'.Leads root.stem around
  same : SameBelow (home around tenant) t t'

namespace Alike

section Looking

variable (h : Alike d.root around d.tenant t t')
include h

/-- The directory of the tenant is found in both trees or in neither. -/
theorem at?_path : t.at? d.path = t'.at? d.path := by
  have hlocate : t.locate d.path = t'.locate d.path := by
    rw [path_eq]
    exact FileTree.locate_congr ((h.left.follow_concat _).trans (h.right.follow_concat _).symm)
  cases hloc : t.locate d.path with
  | error e => rw [FileTree.at?_of_locate_error hloc, FileTree.at?_of_locate_error (hlocate ▸ hloc)]
  | ok l =>
    have hfind := h.same.find []
    rw [List.append_nil] at hfind
    rw [FileTree.at?_of_locate hloc, FileTree.at?_of_locate (hlocate ▸ hloc),
      location_path h.left hloc, hfind]

/-- Where the directory is found, that is its place: the root is at `around`. -/
theorem location {n : Node} (hat : t.at? d.path = .ok (l, n)) : l = home around d.tenant :=
  location_path h.left (FileTree.at?_eq_ok_iff.mp hat).1

/-- A file of the store stands right in the directory, so it is found in both trees or in neither. -/
theorem at?_owned (howns : d.Owns path) : t.at? path = t'.at? path := by
  obtain ⟨name, hplain, rfl⟩ := howns.eq_concat
  refine FileTree.at?_concat_congr d.path_ne_nil hplain h.at?_path fun dir hdir => ?_
  rw [h.location hdir]
  exact h.same.find [FileName.ofText name]

end Looking

/-- The names in the directory are the same ones, in the same order. -/
theorem related_names : Related (Alike d.root around d.tenant)
    (FileAccess.names d.path : StateM FileTree _) (FileAccess.names d.path : StateM FileTree _) := by
  intro t t' h
  refine ⟨?_, h⟩
  show t.names d.path = t'.names d.path
  rw [FileTree.names, FileTree.names, ← h.at?_path]
  cases hat : t.at? d.path with
  | error e => rfl
  | ok found =>
    obtain ⟨l, n⟩ := found
    cases n with
    | file content => rfl
    | directory =>
      rw [h.location hat]
      exact congrArg Except.ok h.same.children

/-- Only the last directory can be missing, as the root is there: it is made in both trees or
    refused in both. -/
theorem related_makeDirectories (hacc : FileTree.Accepted d.path) :
    Related (Alike d.root around d.tenant)
      (FileAccess.makeDirectories d.path : StateM FileTree _)
      (FileAccess.makeDirectories d.path : StateM FileTree _) := by
  intro t t' h
  by_cases hmissing : t.at? d.path = .error .notFound
  · have hmade : ∀ {u : FileTree}, u.Leads d.root.stem around → u.at? d.path = .error .notFound →
        ∃ u', u.makeDirectory d.path = .ok u' := by
      intro u hu hat
      refine (FileTree.makeDirectory_of_at?_notFound hat).resolve_left fun hno => ?_
      rw [FileTree.locate_of_accepted hacc, path_eq, hu.follow_concat] at hno
      exact FileTree.enter_ne_notFound d.isPlain_tenant hno
    obtain ⟨u, hu⟩ := hmade h.left hmissing
    obtain ⟨u', hu'⟩ := hmade h.right (h.at?_path ▸ hmissing)
    rw [FileTree.makeDirectories_of_makeDirectory d.path_ne_nil hu,
      FileTree.makeDirectories_of_makeDirectory d.path_ne_nil hu']
    refine ⟨rfl, (FileTree.invariant_leads _ _).makeDirectory h.left hu,
      (FileTree.invariant_leads _ _).makeDirectory h.right hu', ?_⟩
    obtain ⟨l, hloc, hfree, rfl⟩ := FileTree.makeDirectory_eq_ok hu
    obtain ⟨l', hloc', -, rfl⟩ := FileTree.makeDirectory_eq_ok hu'
    have hl : l' = l := (location_path h.right hloc').trans (location_path h.left hloc).symm
    rw [hl]
    exact h.same.put (FileTree.ne_nil_of_find?_ne (by rw [hfree]; simp)) .directory
  · rw [FileTree.makeDirectories_of_at? hmissing,
      FileTree.makeDirectories_of_at? (h.at?_path ▸ hmissing), h.at?_path]
    exact ⟨rfl, h⟩

/-- A new file has the same name in both trees, for the first free name depends on the names in the
    directory only. -/
theorem related_newFile (content : ByteArray) : Related (Alike d.root around d.tenant)
    (FileAccess.newFile d.path content : StateM FileTree _)
    (FileAccess.newFile d.path content : StateM FileTree _) := by
  refine FileTree.related_update fun t t' h => ?_
  by_cases hopen : ∃ l, t.at? d.path = .ok (l, .directory)
  · obtain ⟨l, hdir⟩ := hopen
    have hl := h.location hdir
    have hdir' := h.at?_path ▸ hdir
    have hrun := FileTree.newFile_of_directory hdir content
    have hrun' := FileTree.newFile_of_directory hdir' content
    have hnames : t.children l = t'.children l := by
      rw [hl]
      exact h.same.children
    rw [← hnames] at hrun'
    cases hname : FileTree.freshName? (t.children l) with
    | none =>
      simp only [hname] at hrun hrun'
      exact .inl ⟨_, hrun, hrun'⟩
    | some name =>
      simp only [hname] at hrun hrun'
      split at hrun
      · rename_i hlong
        rw [if_pos hlong] at hrun'
        exact .inl ⟨_, hrun, hrun'⟩
      · rename_i hfit
        rw [if_neg hfit] at hrun'
        refine .inr ⟨_, _, _, hrun, hrun', (FileTree.invariant_leads _ _).newFile h.left hrun,
          (FileTree.invariant_leads _ _).newFile h.right hrun', h.same.put (by simp) _⟩
  · exact .inl (Closed.newFile (not_exists.mp hopen) h.at?_path content)

/-- Both names stand in the directory, so the file is moved in both trees or in neither. -/
theorem related_rename {source target : FilePath} (hsource : d.Owns source)
    (htarget : d.Owns target) : Related (Alike d.root around d.tenant)
      (FileAccess.rename source target : StateM FileTree _)
      (FileAccess.rename source target : StateM FileTree _) := by
  refine FileTree.related_update_map fun t t' h => ?_
  have hsame := h.at?_owned hsource
  cases hat : t.at? source with
  | error e => exact .inl ⟨e, FileTree.rename_of_error hat, FileTree.rename_of_error (hsame ▸ hat)⟩
  | ok found =>
    obtain ⟨l, n⟩ := found
    cases n with
    | directory =>
      exact .inl ⟨_, FileTree.rename_of_directory hat target,
        FileTree.rename_of_directory (hsame ▸ hat) target⟩
    | file content =>
      obtain ⟨name, hplain, rfl⟩ := htarget.eq_concat
      have hlocate := FileTree.locate_concat_congr d.path_ne_nil h.at?_path name
      cases hloc : t.locate (d.path ++ [name]) with
      | error e =>
        exact .inl ⟨e, FileTree.rename_of_locate_error hat hloc,
          FileTree.rename_of_locate_error (hsame ▸ hat) (hlocate ▸ hloc)⟩
      | ok l' =>
        obtain ⟨dir, hdir, -⟩ := exists_directory hsource hat
        obtain ⟨-, -, hl'⟩ := (FileTree.locate_concat_iff hdir hplain).mp hloc
        have hfind : t.find? l' = t'.find? l' := by
          rw [hl', h.location hdir]
          exact h.same.find [FileName.ofText name]
        by_cases hthere : t.find? l' = some .directory
        · exact .inl ⟨_, FileTree.rename_onto_directory hat hloc hthere,
            FileTree.rename_onto_directory (hsame ▸ hat) (hlocate ▸ hloc) (hfind ▸ hthere)⟩
        · have hrun := FileTree.rename_of_file hat hloc hthere
          have hrun' := FileTree.rename_of_file (hsame ▸ hat) (hlocate ▸ hloc) (hfind ▸ hthere)
          have hl : l ≠ [] :=
            FileTree.ne_nil_of_find?_ne (by rw [(FileTree.at?_eq_ok_iff.mp hat).2]; simp)
          exact .inr ⟨_, _, hrun, hrun', (FileTree.invariant_leads _ _).rename h.left hrun,
            (FileTree.invariant_leads _ _).rename h.right hrun',
            (h.same.drop hl).put (FileTree.ne_nil_of_find?_ne hthere) _⟩

/-- A file of the tenant is removed from both trees or from neither. -/
theorem related_remove (howns : d.Owns path) : Related (Alike d.root around d.tenant)
    (FileAccess.remove path : StateM FileTree _) (FileAccess.remove path : StateM FileTree _) := by
  refine FileTree.related_update_map fun t t' h => ?_
  have hsame := h.at?_owned howns
  cases hat : t.at? path with
  | error e =>
    exact .inl ⟨e, FileTree.remove_of_error hat, FileTree.remove_of_error (hsame ▸ hat)⟩
  | ok found =>
    obtain ⟨l, n⟩ := found
    cases n with
    | directory =>
      exact .inl ⟨_, FileTree.remove_of_directory hat, FileTree.remove_of_directory (hsame ▸ hat)⟩
    | file content =>
      have hrun := FileTree.remove_of_file hat
      have hrun' := FileTree.remove_of_file (hsame ▸ hat)
      refine .inr ⟨_, _, hrun, hrun', (FileTree.invariant_leads _ _).remove h.left hrun,
        (FileTree.invariant_leads _ _).remove h.right hrun', h.same.drop ?_⟩
      exact FileTree.ne_nil_of_find?_ne (by rw [(FileTree.at?_eq_ok_iff.mp hat).2]; simp)

/-- **Under a root that is there** a store goes by what stands below its own directory. -/
theorem agrees (hacc : FileTree.Accepted d.path) : d.Agrees (Alike d.root around d.tenant) where
  read howns t t' h := by
    refine ⟨?_, h⟩
    show t.read _ = t'.read _
    rw [FileTree.read, FileTree.read, h.at?_owned howns]
  names := related_names
  makeDirectories := related_makeDirectories hacc
  newFile := related_newFile
  owns_newFile := owns_of_newFile
  rename := related_rename
  remove := related_remove

end Alike

/-! ## The others -/

section Others

variable {tenant : String}

/-- The directories of two tenants stand side by side, and so does what is in them. -/
theorem not_prefix_home (hne : d.tenant ≠ tenant) (names : Location) :
    ¬ home around tenant <+: home around d.tenant ++ names := by
  intro hprefix
  rw [home, home, List.append_assoc, List.prefix_append_right_inj] at hprefix
  exact hne (FileName.ofText_injective (List.cons_prefix_cons.mp hprefix).1).symm

/-- A directory on the way to that of `d` is there already, or it is that one. -/
theorem location_of_makeDirectory {outer : FilePath} (hleads : t.Leads d.root.stem around)
    (houter : outer <+: d.path) (hmake : t.makeDirectory outer = .ok t') :
    ∃ l, l = home around d.tenant ∧ l ≠ [] ∧ t' = t.put l .directory := by
  obtain ⟨l, hloc, hfree, rfl⟩ := FileTree.makeDirectory_eq_ok hmake
  refine ⟨l, ?_, FileTree.ne_nil_of_find?_ne (by rw [hfree]; simp), rfl⟩
  rw [path_eq, List.prefix_concat_iff] at houter
  rcases houter with rfl | ⟨rest, hrest⟩
  · exact hleads.location d.isPlain_tenant hloc
  · obtain ⟨l', hl'⟩ := (hrest ▸ hleads).of_append
    rw [FileTree.makeDirectory_of_directory (hl'.at? (FileTree.accepted_of_locate hloc))] at hmake
    cases hmake

/-- **What the store of another tenant does** stays below its own directory. -/
theorem preserves_call_alike (hne : d.tenant ≠ tenant) (t' : FileTree) (op : Operation) :
    Preserves (fun t => Alike d.root around tenant t t') (op.call d.store).run := by
  have hfile : ∀ {t : FileTree} {path l n}, Alike d.root around tenant t t' → d.Owns path →
      t.at? path = .ok (l, n) → l ≠ [] ∧ ¬ home around tenant <+: l := by
    intro t path l n h howns hat
    obtain ⟨dir, hdir, name, rfl⟩ := exists_directory howns hat
    rw [location_path h.left (FileTree.at?_eq_ok_iff.mp hdir).1]
    exact ⟨by simp, not_prefix_home hne [FileName.ofText name]⟩
  refine preserves_call_of_files ?_ (fun content => ?_) (fun hsource htarget => ?_)
    (fun hpath => ?_) op
  · refine FileTree.preserves_makeDirectoriesOf fun outer houter =>
      FileTree.preserves_update_map fun {t t₁} h hmake => ?_
    have hleads := (FileTree.invariant_leads _ _).makeDirectory h.left hmake
    have hprefix : outer.reverse <+: d.path := List.reverse_suffix.mp (by simpa using houter)
    obtain ⟨l, hl, hne', rfl⟩ := location_of_makeDirectory h.left hprefix hmake
    refine ⟨hleads, h.right, h.same.put_beside hne' ?_ .directory⟩
    have hbeside : ¬ home around tenant <+: home around d.tenant ++ [] := not_prefix_home hne []
    rwa [List.append_nil, ← hl] at hbeside
  · refine FileTree.preserves_update fun {t t₁ new} h hrun => ?_
    have hleads := (FileTree.invariant_leads _ _).newFile h.left hrun
    obtain ⟨dir, name, hdir, -, -, -, -, rfl⟩ := FileTree.newFile_eq_ok hrun
    refine ⟨hleads, h.right, h.same.put_beside (by simp) ?_ _⟩
    rw [location_path h.left (FileTree.at?_eq_ok_iff.mp hdir).1]
    exact not_prefix_home hne [FileName.ofText name]
  · refine FileTree.preserves_update_map fun {t t₁} h hrun => ?_
    have hleads := (FileTree.invariant_leads _ _).rename h.left hrun
    obtain ⟨l, l', content, hat, hloc, hno, rfl⟩ := FileTree.exists_of_rename hrun
    obtain ⟨hl, hbeside⟩ := hfile h hsource hat
    obtain ⟨dir, hdir, -⟩ := exists_directory hsource hat
    obtain ⟨name, hplain, rfl⟩ := htarget.eq_concat
    obtain ⟨-, -, rfl⟩ := (FileTree.locate_concat_iff hdir hplain).mp hloc
    refine ⟨hleads, h.right, (h.same.drop_beside hl hbeside).put_beside (by simp) ?_ _⟩
    rw [location_path h.left (FileTree.at?_eq_ok_iff.mp hdir).1]
    exact not_prefix_home hne [FileName.ofText name]
  · refine FileTree.preserves_update_map fun {t t₁} h hrun => ?_
    have hleads := (FileTree.invariant_leads _ _).remove h.left hrun
    obtain ⟨l, content, hat, rfl⟩ := FileTree.remove_eq_ok hrun
    obtain ⟨hl, hbeside⟩ := hfile h hpath hat
    exact ⟨hleads, h.right, h.same.drop_beside hl hbeside⟩

end Others

end Directory

end Redline
