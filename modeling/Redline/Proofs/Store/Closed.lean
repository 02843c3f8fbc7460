/-
  Closed directories — stores whose directory is not there.

  The directories of all tenants stand next to each other in one root.  A directory is closed in a
  tree if there is no directory at its path, whatever the cause.

  1. **Closed directories** — then no file is touched, and an answer tells no more than the cause.
     So a store answers alike in two trees in which its directory is closed for the same cause
     (`agrees_of_barred`).
  2. **Missing roots** — as long as the root is missing all directories are closed.  A store with a
     short name does not see whether the root was made (`agrees_completed`), and no store does more
     to the root than to make it (`completed_of_call`).
  3. **Stuck roots** — where the root cannot be made either, all calls leave the tree as it is
     (`preserves_call_of_stuck`).
-/
import Redline.Proofs.Store.Related
import Redline.Proofs.Store.Roots

namespace Redline.Directory

open FileTree (Founded)

variable {d : Directory} {t t' : FileTree} {around l : Location} {path : FilePath}

theorem path_eq (d : Directory) : d.path = d.root.stem ++ [d.tenant] :=
  d.root.child_eq d.tenant

theorem isPlain_tenant (d : Directory) : FileTree.IsPlain d.tenant :=
  isPlain_of_isTenantName d.isName

/-- The location of the directory of `tenant` in a root at `around`. -/
def home (around : Location) (tenant : String) : Location :=
  around ++ [FileName.ofText tenant]

theorem location_path (hleads : t.Leads d.root.stem around) (hloc : t.locate d.path = .ok l) :
    l = home around d.tenant := by
  rw [path_eq] at hloc
  exact hleads.location d.isPlain_tenant hloc

/-! ## Closed directories -/

/-- There is no directory at the path of `d`. -/
def Closed (d : Directory) (t : FileTree) : Prop :=
  ∀ l, t.at? d.path ≠ .ok (l, .directory)

/-- What the store works on stands in its directory. -/
theorem exists_directory {n : Node} (howns : d.Owns path) (hat : t.at? path = .ok (l, n)) :
    ∃ dir, t.at? d.path = .ok (dir, .directory) ∧ ∃ name, l = dir ++ [FileName.ofText name] := by
  obtain ⟨name, hplain, rfl⟩ := howns.eq_concat
  obtain ⟨dir, hdir, hl⟩ := FileTree.exists_directory_of_at?_concat d.path_ne_nil hplain hat
  exact ⟨dir, hdir, name, hl⟩

/-- A store whose directory is closed finds none of its files. -/
theorem Closed.exists_error (h : d.Closed t) (howns : d.Owns path) : ∃ e, t.at? path = .error e := by
  cases hat : t.at? path with
  | error e => exact ⟨e, rfl⟩
  | ok found =>
    obtain ⟨dir, hdir, -⟩ := exists_directory howns hat
    exact absurd hdir (h dir)

/-- No file is made in it. -/
theorem Closed.newFile (h : d.Closed t) (hsame : t.at? d.path = t'.at? d.path)
    (content : ByteArray) :
    ∃ e, t.newFile d.path content = .error e ∧ t'.newFile d.path content = .error e := by
  rw [FileTree.newFile, FileTree.newFile, ← hsame]
  cases hat : t.at? d.path with
  | error e => exact ⟨e, rfl, rfl⟩
  | ok found =>
    obtain ⟨l, n⟩ := found
    cases n with
    | file content => exact ⟨.notADirectory, rfl, rfl⟩
    | directory => exact absurd hat (h l)

/-- What is preserved where the directory is looked for and made is preserved by every call, as long
    as there is none. -/
theorem preserves_call_of_closed {P : FileTree → Prop} (hclosed : ∀ t, P t → d.Closed t)
    (hmake : Preserves P (FileAccess.makeDirectories d.path : StateM FileTree _)) (op : Operation) :
    Preserves P (op.call d.store).run := by
  refine preserves_call_of_files hmake (fun content => ?_) (fun hsource htarget => ?_)
    (fun hpath => ?_) op
  · refine FileTree.preserves_update fun {t t' new} ht hrun => ?_
    obtain ⟨e, hno, -⟩ := (hclosed t ht).newFile rfl content
    rw [hno] at hrun
    cases hrun
  · refine FileTree.preserves_update_map fun {t t'} ht hrun => ?_
    obtain ⟨e, hno⟩ := (hclosed t ht).exists_error hsource
    rw [FileTree.rename_of_error hno] at hrun
    cases hrun
  · refine FileTree.preserves_update_map fun {t t'} ht hrun => ?_
    obtain ⟨e, hno⟩ := (hclosed t ht).exists_error hpath
    rw [FileTree.remove_of_error hno] at hrun
    cases hrun

/-- In neither tree is there a directory at the path of `d`, and for the same cause. -/
structure Barred (d : Directory) (t t' : FileTree) : Prop where
  closed : d.Closed t
  path : t.at? d.path = t'.at? d.path
  owned : ∀ {path}, d.Owns path → t.at? path = t'.at? path

theorem barred_of_closed (hclosed : d.Closed t) (hpath : t.at? d.path = t'.at? d.path) :
    d.Barred t t' where
  closed := hclosed
  path := hpath
  owned howns := by
    obtain ⟨name, hplain, rfl⟩ := howns.eq_concat
    exact FileTree.at?_concat_congr d.path_ne_nil hplain hpath fun dir hdir =>
      absurd hdir (hclosed dir)

/-- **A store without a directory** answers alike in two trees, if there is none in both of them for
    the same cause and it could be made alike. -/
theorem agrees_of_barred {R : FileTree → FileTree → Prop} (hrefl : ∀ t, R t t)
    (hbarred : ∀ t t', R t t' → t = t' ∨ d.Barred t t')
    (hmake : Related R (FileAccess.makeDirectories d.path : StateM FileTree _)
      (FileAccess.makeDirectories d.path : StateM FileTree _)) : d.Agrees R where
  read howns t t' h := by
    refine ⟨?_, h⟩
    show t.read _ = t'.read _
    rcases hbarred t t' h with rfl | hno
    · rfl
    · rw [FileTree.read, FileTree.read, hno.owned howns]
  names t t' h := by
    refine ⟨?_, h⟩
    show t.names d.path = t'.names d.path
    rcases hbarred t t' h with rfl | hno
    · rfl
    · rw [FileTree.names, FileTree.names, ← hno.path]
      cases hat : t.at? d.path with
      | error e => rfl
      | ok found =>
        obtain ⟨l, n⟩ := found
        cases n with
        | file content => rfl
        | directory => exact absurd hat (hno.closed l)
  makeDirectories := hmake
  newFile content := FileTree.related_update_of_refused hrefl fun t t' h =>
    (hbarred t t' h).imp_right fun hno => hno.closed.newFile hno.path content
  owns_newFile := owns_of_newFile
  rename {source target} hsource htarget := by
    refine FileTree.related_update_of_refused hrefl fun t t' h =>
      (hbarred t t' h).imp_right fun hno => ?_
    obtain ⟨e, hat⟩ := hno.closed.exists_error hsource
    refine ⟨e, ?_, ?_⟩
    · rw [FileTree.rename_of_error hat]
      rfl
    · rw [FileTree.rename_of_error (hno.owned hsource ▸ hat)]
      rfl
  remove {path} howns := by
    refine FileTree.related_update_of_refused hrefl fun t t' h =>
      (hbarred t t' h).imp_right fun hno => ?_
    obtain ⟨e, hat⟩ := hno.closed.exists_error howns
    refine ⟨e, ?_, ?_⟩
    · rw [FileTree.remove_of_error hat]
      rfl
    · rw [FileTree.remove_of_error (hno.owned howns ▸ hat)]
      rfl

/-! ## Missing roots -/

/-- Both trees are one, or the root was missing in the first one and is made in the second. -/
def Completed (t₀ t₁ : FileTree) (t t' : FileTree) : Prop :=
  t = t' ∨ t = t₀ ∧ t' = t₁

section Missing

variable {t₀ t₁ : FileTree}

/-- A path that the system refuses leads to no directory. -/
theorem closed_of_not_accepted (hacc : ¬ FileTree.Accepted d.path) (t : FileTree) : d.Closed t := by
  intro l hat
  exact hacc (FileTree.accepted_of_locate (FileTree.at?_eq_ok_iff.mp hat).1)

/-- A name that is too long is refused in a root that is there. -/
theorem at?_path_of_long (hleads : t.Leads d.root.stem around) (hacc : FileTree.Accepted d.path)
    (hlong : FileTree.maxNameSize < d.tenant.utf8ByteSize) :
    t.at? d.path = .error .nameTooLong := by
  have hplain := d.isPlain_tenant
  refine FileTree.at?_of_locate_error ?_
  rw [FileTree.locate_of_accepted hacc, path_eq, hleads.follow_concat, FileTree.enter,
    if_neg (not_or.mpr ⟨hplain.ne_empty, hplain.ne_dot⟩), if_neg hplain.ne_dots, if_pos hlong]

/-- Where the directory is refused an entry is not there, or is refused for the same cause. -/
theorem answer_fetch_of_error {id : EntryId} {e : FileError}
    (hacc : FileTree.Accepted (d.path ++ [fileName id])) (h : t.at? d.path = .error e) :
    (outcome ((Operation.fetch id).call d.store) t).1
      = (answerOfText id (.error e)).map Answer.found := by
  have hentry : t.at? (d.entryPath id) = .error e := by
    rw [entryPath_eq]
    exact FileTree.at?_concat_of_error d.path_ne_nil hacc h
  have hfetch : outcome (d.fetch id) t = (answerOfText id (.error e), t) := by
    rw [outcome_fetch, FileTree.read, hentry]
    rfl
  show (outcome (d.fetch id >>= fun found => pure (Answer.found found)) t).1 = _
  rw [outcome_bind, hfetch]
  cases answerOfText id (.error e) <;> rfl

variable (hfounded : Founded d.root.stem around t₀ t₁)
include hfounded

theorem at?_path_missing (hacc : FileTree.Accepted d.path) : t₀.at? d.path = .error .notFound := by
  rw [path_eq] at hacc ⊢
  exact FileTree.at?_of_locate_error (hfounded.locate_concat hacc)

theorem at?_path_made (hacc : FileTree.Accepted d.path)
    (hshort : d.tenant.utf8ByteSize ≤ FileTree.maxNameSize) : t₁.at? d.path = .error .notFound := by
  have hleads := FileTree.leads_of_at? hfounded.there
  have hloc : t₁.locate d.path = .ok (home around d.tenant) := by
    rw [FileTree.locate_of_accepted hacc, path_eq, hleads.follow_concat,
      FileTree.enter_eq_ok_iff d.isPlain_tenant]
    exact ⟨hshort, rfl⟩
  rw [FileTree.at?_of_locate hloc, home, hfounded.empty]

theorem related_makeDirectories_completed : Related (Completed t₀ t₁)
    (FileAccess.makeDirectories d.path : StateM FileTree _)
    (FileAccess.makeDirectories d.path : StateM FileTree _) := by
  rintro t t' (rfl | ⟨rfl, rfl⟩)
  · exact ⟨rfl, .inl rfl⟩
  · by_cases hacc : FileTree.Accepted d.path
    · rw [path_eq] at hacc ⊢
      rw [hfounded.makeDirectories_concat hacc d.isPlain_tenant]
      exact ⟨rfl, .inl rfl⟩
    · obtain ⟨e, hrefused⟩ := FileTree.makeDirectories_of_not_accepted d.path_ne_nil hacc
      rw [hrefused, hrefused]
      exact ⟨rfl, .inr ⟨rfl, rfl⟩⟩

/-- **A store whose name is short** does not see whether the root was made. -/
theorem agrees_completed (hshort : d.tenant.utf8ByteSize ≤ FileTree.maxNameSize) :
    d.Agrees (Completed t₀ t₁) := by
  refine agrees_of_barred (fun _ => .inl rfl) (fun t t' h => ?_)
    (related_makeDirectories_completed hfounded)
  rcases h with rfl | ⟨rfl, rfl⟩
  · exact .inl rfl
  · refine .inr ?_
    by_cases hacc : FileTree.Accepted d.path
    · have hmissing := at?_path_missing hfounded hacc
      have hmade := at?_path_made hfounded hacc hshort
      exact barred_of_closed (fun l hat => by rw [hmissing] at hat; cases hat)
        (hmissing.trans hmade.symm)
    · exact barred_of_closed (closed_of_not_accepted hacc _)
        (FileTree.at?_congr_of_not_accepted hacc _ _)

/-- **A store whose name is too long** makes the root at most. -/
theorem completed_of_long (hlong : FileTree.maxNameSize < d.tenant.utf8ByteSize)
    (op : Operation) :
    Completed t₀ t₁ (outcome (op.call d.store) t₀).2 (outcome (op.call d.store) t₁).2 := by
  have hclosed₀ : d.Closed t₀ := by
    by_cases hacc : FileTree.Accepted d.path
    · intro l hat
      rw [at?_path_missing hfounded hacc] at hat
      cases hat
    · exact closed_of_not_accepted hacc t₀
  have hpath₁ : ∃ e, t₁.at? d.path = .error e
      ∧ (FileAccess.makeDirectories (m := StateM FileTree) d.path t₁).2 = t₁ := by
    by_cases hacc : FileTree.Accepted d.path
    · have hrefused := at?_path_of_long (FileTree.leads_of_at? hfounded.there) hacc hlong
      refine ⟨_, hrefused, ?_⟩
      rw [FileTree.makeDirectories_of_at? (by rw [hrefused]; simp)]
    · obtain ⟨e, -, hrefused⟩ := FileTree.exists_error_of_not_accepted hacc
      obtain ⟨e', hmake⟩ := FileTree.makeDirectories_of_not_accepted d.path_ne_nil hacc
      exact ⟨e, FileTree.at?_of_locate_error (hrefused t₁), by rw [hmake]⟩
  obtain ⟨e, hpath, hmake⟩ := hpath₁
  have hclosed₁ : d.Closed t₁ := fun l hat => by
    rw [hpath] at hat
    cases hat
  have hafter : (outcome (op.call d.store) t₁).2 = t₁ :=
    preserves_call_of_closed (P := (· = t₁)) (fun t ht => ht ▸ hclosed₁) (fun t ht => by
      rw [ht, hmake]) op t₁ rfl
  have hbefore : (outcome (op.call d.store) t₀).2 = t₀ ∨ (outcome (op.call d.store) t₀).2 = t₁ := by
    refine preserves_call_of_closed (P := fun t => t = t₀ ∨ t = t₁) (fun t ht => ?_)
      (fun t ht => ?_) op t₀ (.inl rfl)
    · rcases ht with rfl | rfl
      · exact hclosed₀
      · exact hclosed₁
    · rcases ht with rfl | rfl
      · have hstates := (related_makeDirectories_completed hfounded _ _ (.inr ⟨rfl, rfl⟩)).2
        rw [hmake] at hstates
        rcases hstates with hstate | ⟨hstate, -⟩
        · exact .inr hstate
        · exact .inl hstate
      · exact .inr hmake
  rw [hafter]
  rcases hbefore with hstate | hstate
  · exact .inr ⟨hstate, rfl⟩
  · exact .inl hstate

/-- **No store** does more to the root than to make it. -/
theorem completed_of_call (op : Operation) (h : Completed t₀ t₁ t t') :
    Completed t₀ t₁ (outcome (op.call d.store) t).2 (outcome (op.call d.store) t').2 := by
  by_cases hshort : d.tenant.utf8ByteSize ≤ FileTree.maxNameSize
  · exact ((agrees_completed hfounded hshort).call op t t' h).2
  · rcases h with rfl | ⟨rfl, rfl⟩
    · exact .inl rfl
    · exact completed_of_long hfounded (Nat.lt_of_not_le hshort) op

end Missing

/-! ## Stuck roots -/

/-- A path that leads somewhere behind the root leads through it. -/
theorem exists_leads (hloc : t.locate d.path = .ok l) : ∃ around, t.Leads d.root.stem around := by
  rw [FileTree.locate_of_accepted (FileTree.accepted_of_locate hloc), path_eq,
    FileTree.follow_concat_iff d.isPlain_tenant] at hloc
  obtain ⟨around, hfollow, hthere, -⟩ := hloc
  exact ⟨around, hfollow, hthere⟩

/-- **Where the root neither is there nor can be made**, no call changes anything. -/
theorem preserves_call_of_stuck (hno : ¬ ∃ around, t.Leads d.root.stem around)
    (hstuck : FileTree.Accepted d.root.stem → t.at? d.root.stem ≠ .error .notFound)
    (op : Operation) : Preserves (· = t) (op.call d.store).run := by
  have hclosed : d.Closed t := fun l hat =>
    hno (exists_leads (FileTree.at?_eq_ok_iff.mp hat).1)
  have hlost : FileTree.Accepted d.path → t.at? d.path ≠ .error .notFound := by
    intro hacc hat
    have hne : d.root.stem ≠ [] := fun hnil => hno ⟨[], hnil ▸ FileTree.leads_nil t⟩
    rcases FileTree.makeDirectory_of_at?_notFound hat with hloc | ⟨t', hmake⟩
    · rw [path_eq] at hacc hloc
      have hstem := hacc.of_concat hne
      rw [FileTree.locate_of_accepted hacc, FileTree.follow_concat hstem] at hloc
      cases hroot : t.at? d.root.stem with
      | error e =>
        rw [hroot] at hloc
        cases hloc
        exact hstuck hstem hroot
      | ok found =>
        obtain ⟨l, n⟩ := found
        rw [hroot] at hloc
        cases n with
        | file content => cases hloc
        | directory => exact hno ⟨l, FileTree.leads_of_at? hroot⟩
    · obtain ⟨l, hloc, -⟩ := FileTree.makeDirectory_eq_ok hmake
      exact hno (exists_leads hloc)
  have hmake : (FileAccess.makeDirectories (m := StateM FileTree) d.path t).2 = t := by
    by_cases hacc : FileTree.Accepted d.path
    · rw [FileTree.makeDirectories_of_at? (hlost hacc)]
    · obtain ⟨e, hrefused⟩ := FileTree.makeDirectories_of_not_accepted d.path_ne_nil hacc
      rw [hrefused]
  exact preserves_call_of_closed (fun u hu => hu ▸ hclosed) (fun u hu => by rw [hu, hmake]) op

end Redline.Directory
