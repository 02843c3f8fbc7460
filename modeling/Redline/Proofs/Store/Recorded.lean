/-
  Recorded runs — which files a store works on.

  A run can be recorded: beside the tree, the state has the paths of all files that were read, made,
  moved or removed so far.

  1. **Recording** — an access to files that records, made from the one to a tree.
  2. **Files of a store** — whatever a store is asked, the recorded run is the run, and all files in
     its record are files of its directory: those of entries, or temporary ones
     (`owns_of_recorded_call`).  They lie directly in it (`Owns.isDirectlyIn`).
  3. **Different files** — below one root no two tenants have a path of a file in common, and no two
     entries of a tenant (`entryPath_eq_iff`).
-/
import Redline.Proofs.Store.Closed

namespace Redline

/-! ## Recording -/

/-- A tree, and the paths of the files in it that were read, made, moved or removed. -/
structure Recorded where
  tree : FileTree
  used : List FilePath

namespace Recorded

/-- The step on a tree, which works on the files at `paths`, as they depend on its answer. -/
def step {α : Type} (paths : α → List FilePath) (onTree : StateM FileTree α) : StateM Recorded α :=
  fun r =>
    let (a, t) := onTree r.tree
    (a, ⟨t, paths a ++ r.used⟩)

instance : FileAccess (StateM Recorded) where
  read path := step (fun _ => [path]) (FileAccess.read path)
  names path := step (fun _ => []) (FileAccess.names path)
  isDirectory path := step (fun _ => []) (FileAccess.isDirectory path)
  makeDirectory path := step (fun _ => []) (FileAccess.makeDirectory path)
  newFile path content := step
    (fun made => match made with
      | .ok new => [new]
      | .error _ => [])
    (FileAccess.newFile path content)
  rename source target := step (fun _ => [source, target]) (FileAccess.rename source target)
  remove path := step (fun _ => [path]) (FileAccess.remove path)

end Recorded

/-! ## Files of a store -/

namespace Directory

variable {d d' : Directory} {t : FileTree} {path : FilePath}

/-- The path is that of a name in the directory of `d`, without a way on from there. -/
def IsDirectlyIn (d : Directory) (path : FilePath) : Prop :=
  ∃ name, FileTree.IsPlain name ∧ '/' ∉ name.toList ∧ path = (d.root.child d.tenant).child name

/-- A file that a store owns is a plain name in its directory. -/
theorem Owns.isDirectlyIn (h : d.Owns path) : d.IsDirectlyIn path := by
  rcases h with ⟨id, rfl⟩ | ⟨n, rfl⟩
  · refine ⟨_, isPlain_fileName id, ?_, rfl⟩
    rw [toList_fileName]
    intro hslash
    rcases List.mem_append.mp hslash with hslash | hslash
    · exact Text.not_mem_decimal (by decide) id.number hslash
    · exact absurd hslash (by decide)
  · exact ⟨_, FileTree.isPlain_temporaryName n,
      FileTree.not_mem_temporaryName (by decide) (by decide) n, rfl⟩

/-- The record belongs to a run in the tree, and has only files of `d`. -/
def Records (d : Directory) (r : Recorded) (t : FileTree) : Prop :=
  r.tree = t ∧ ∀ path ∈ r.used, d.Owns path

theorem related_step {α : Type} {paths : α → List FilePath} {onTree : StateM FileTree α}
    (h : ∀ t, ∀ path ∈ paths (onTree t).1, d.Owns path) :
    Related d.Records (Recorded.step paths onTree) onTree := by
  rintro ⟨t, used⟩ _ ⟨rfl, hused⟩
  refine ⟨rfl, rfl, fun path hpath => ?_⟩
  rcases List.mem_append.mp hpath with hpath | hpath
  · exact h t path hpath
  · exact hused path hpath

/-- Each operation on files records paths that the store owns. -/
theorem agrees_records (d : Directory) : d.Agrees d.Records where
  read howns := related_step fun t path hpath => by
    rw [List.mem_singleton.mp hpath]
    exact howns
  names := related_step fun _ _ hpath => absurd hpath List.not_mem_nil
  makeDirectories := related_makeDirectoriesOf
    (fun _ _ => related_step fun _ _ hpath => absurd hpath List.not_mem_nil)
    (fun _ => related_step fun _ _ hpath => absurd hpath List.not_mem_nil)
  newFile content := related_step fun t path hpath => by
    split at hpath
    · rename_i new hnew
      rw [List.mem_singleton.mp hpath]
      exact owns_of_newFile hnew
    · exact absurd hpath List.not_mem_nil
  owns_newFile {content new r} hnew := owns_of_newFile (t := r.tree) hnew
  rename hsource htarget := related_step fun t path hpath => by
    rcases List.mem_cons.mp hpath with rfl | hpath
    · exact hsource
    · rw [List.mem_singleton.mp hpath]
      exact htarget
  remove howns := related_step fun t path hpath => by
    rw [List.mem_singleton.mp hpath]
    exact howns

/-- **The recorded run is the run**, and its files are files of the directory. -/
theorem owns_of_recorded_call (d : Directory) (op : Operation) (t : FileTree) :
    (outcome (op.call d.store) (⟨t, []⟩ : Recorded)).1 = (outcome (op.call d.store) t).1
    ∧ (outcome (op.call d.store) (⟨t, []⟩ : Recorded)).2.tree = (outcome (op.call d.store) t).2
    ∧ ∀ path ∈ (outcome (op.call d.store) (⟨t, []⟩ : Recorded)).2.used, d.Owns path := by
  obtain ⟨hanswer, htree, hused⟩ := d.agrees_records.call op ⟨t, []⟩ t
    ⟨rfl, fun path hpath => absurd hpath List.not_mem_nil⟩
  exact ⟨hanswer, htree, hused⟩

/-! ## Different files -/

/-- **No file in common** below one root. -/
theorem entryPath_eq_iff (hroot : d.root = d'.root) {id id' : EntryId} :
    d.entryPath id = d'.entryPath id' ↔ d.tenant = d'.tenant ∧ id = id' := by
  rw [entryPath_eq, entryPath_eq, path_eq, path_eq, hroot]
  constructor
  · intro h
    obtain ⟨hpath, hname⟩ := List.append_inj' h rfl
    obtain ⟨-, htenant⟩ := List.append_inj' hpath rfl
    exact ⟨(List.cons.inj htenant).1,
      entryName_injective (congrArg FileName.ofText (List.cons.inj hname).1)⟩
  · rintro ⟨htenant, rfl⟩
    rw [htenant]

end Directory

end Redline
