/-
  Isolation — tenants of one root do not see one another.

  Several stores with one root are asked in any order, each under the name of its tenant.

  1. **Runs** — what all the stores answer, one call after another.
  2. **Separation** — a relation between trees separates a tenant if its own calls keep it, with the
     same answers in both trees, and the calls of the others keep it in the first tree alone.  Then
     the answers that a tenant gets are those that it gets without the others
     (`Separates.filter_answers`).  The induction is on the calls, for any two trees in the relation.
  3. **Roots** — such a relation is there whatever becomes of the root: it is there from the start,
     it is missing and can be made, or nothing can be made behind it (`exists_separates`).

  There are two ways for a tenant to see that another one has made the root: the path of the root goes
  up behind a directory that was missing, or a name is too long and is only refused in a directory
  that is there (`not_separate`).
-/
import Redline.Proofs.Store.Recorded
import Redline.Proofs.Store.Tenants

namespace Redline

/-! ## Runs -/

/-- A call of the store of one tenant. -/
structure TenantCall where
  tenant : String
  isName : isTenantName tenant
  op : Operation

namespace TenantCall

/-- The directory of the tenant, below a root. -/
def directory (call : TenantCall) (root : FilePath) : Directory :=
  ⟨root, call.tenant, call.isName⟩

/-- What the store of the tenant answers, and the state that it leaves. -/
def run {σ : Type} [FileAccess (StateM σ)] (call : TenantCall) (root : FilePath) (st : σ) :
    Except StoreError Answer × σ :=
  outcome (call.op.call (call.directory root).store) st

end TenantCall

/-- What the stores below a root answer to one call after another, with the tenant of each. -/
def tenantAnswers (root : FilePath) :
    List TenantCall → FileTree → List (String × Except StoreError Answer)
  | [], _ => []
  | call :: calls, t =>
    let (answer, t') := call.run root t
    (call.tenant, answer) :: tenantAnswers root calls t'

theorem tenantAnswers_cons (root : FilePath) (call : TenantCall) (calls : List TenantCall)
    (t : FileTree) : tenantAnswers root (call :: calls) t
      = (call.tenant, (call.run root t).1) :: tenantAnswers root calls (call.run root t).2 := rfl

/-! ## Separation -/

/-- The calls of `tenant` keep the relation, with the same answers; those of others keep it too. -/
structure Separates (root : FilePath) (tenant : String) (R : FileTree → FileTree → Prop) : Prop where
  own : ∀ call : TenantCall, call.tenant = tenant →
    Related R (call.op.call (call.directory root).store).run
      (call.op.call (call.directory root).store).run
  others : ∀ call : TenantCall, call.tenant ≠ tenant → ∀ {t t'}, R t t' → R (call.run root t).2 t'

/-- **The answers without the others** are the same. -/
theorem Separates.filter_answers {root : FilePath} {tenant : String}
    {R : FileTree → FileTree → Prop} (h : Separates root tenant R) (calls : List TenantCall)
    {t t' : FileTree} (hR : R t t') :
    (tenantAnswers root calls t).filter (·.1 = tenant)
      = tenantAnswers root (calls.filter (·.tenant = tenant)) t' := by
  induction calls generalizing t t' with
  | nil => rfl
  | cons call calls ih =>
    by_cases hown : call.tenant = tenant
    · obtain ⟨hanswer, hafter⟩ := h.own call hown t t' hR
      rw [List.filter_cons_of_pos (by simpa using hown), tenantAnswers_cons, tenantAnswers_cons,
        List.filter_cons_of_pos (by simpa using hown)]
      exact congrArg₂ List.cons (Prod.ext rfl hanswer) (ih hafter)
    · rw [List.filter_cons_of_neg (by simpa using hown), tenantAnswers_cons,
        List.filter_cons_of_neg (by simpa using hown)]
      exact ih (h.others call hown hR)

/-! ## Roots -/

/-- The root is there; the empty path is where one is. -/
def HasRoot (root : FilePath) (t : FileTree) : Prop :=
  root = [] ∨ ∃ l, t.at? root = .ok (l, .directory)

/-- The path does not go up, and no name on it is too long. -/
structure IsStraight (path : FilePath) : Prop where
  not_up : ".." ∉ path
  short : ∀ name ∈ path, name.utf8ByteSize ≤ FileTree.maxNameSize

theorem HasRoot.exists_leads {root : FilePath} {t : FileTree} (h : HasRoot root t) :
    ∃ around, t.Leads root.stem around := by
  rcases h with rfl | ⟨l, hat⟩
  · exact ⟨[], FileTree.leads_nil t⟩
  · have hleads := FileTree.leads_of_at? hat
    rw [FilePath.stem]
    split
    · rename_i hslash
      obtain ⟨outer, rfl⟩ := List.getLast?_eq_some_iff.mp hslash
      rw [List.dropLast_concat]
      exact hleads.of_append
    · exact ⟨l, hleads⟩

section Roots

open FileTree (Accepted Founded)
open Directory (Alike Completed)

variable {root : FilePath} {tenant : String} {t t' : FileTree} {around : Location}

/-- A path that is never accepted: the tenant is refused whatever the others do. -/
theorem separates_of_not_accepted (hacc : ¬ Accepted (root.child tenant)) :
    Separates root tenant fun _ _ => True where
  own := by
    rintro call rfl
    refine (Directory.agrees_of_barred (fun _ => trivial) (fun t t' _ => .inr ?_) ?_).call call.op
    · exact Directory.barred_of_closed
        (Directory.closed_of_not_accepted (d := call.directory root) hacc t)
        (FileTree.at?_congr_of_not_accepted hacc t t')
    · intro t t' _
      obtain ⟨e, hrefused⟩ :=
        FileTree.makeDirectories_of_not_accepted (call.directory root).path_ne_nil hacc
      exact ⟨by rw [hrefused, hrefused], trivial⟩
  others _ _ _ _ _ := trivial

/-- A root that is there. -/
theorem separates_alike (hacc : Accepted (root.child tenant)) (around : Location) :
    Separates root tenant (Alike root around tenant) where
  own := by
    rintro call rfl
    exact (Alike.agrees (d := call.directory root) hacc).call call.op
  others call hne _ t' h := Directory.preserves_call_alike (d := call.directory root) hne t' call.op _ h

/-- A root that is missing and can be made. -/
theorem separates_completed (hacc : Accepted (root.child tenant))
    (hshort : tenant.utf8ByteSize ≤ FileTree.maxNameSize) {t₀ t₁ : FileTree}
    (hfounded : Founded root.stem around t₀ t₁) :
    Separates root tenant (Relation.Comp (Completed t₀ t₁)
      (Relation.Comp (Alike root around tenant) (flip (Completed t₀ t₁)))) where
  own := by
    rintro call rfl
    have hcompleted : Related (Completed t₀ t₁) (call.op.call (call.directory root).store).run
        (call.op.call (call.directory root).store).run :=
      (Directory.agrees_completed (d := call.directory root) hfounded hshort).call call.op
    exact hcompleted.comp (((separates_alike hacc around).own call rfl).comp hcompleted.flip)
  others call hne := by
    rintro t t' ⟨u, hu, u', halike, hu'⟩
    exact ⟨_, Directory.completed_of_call (d := call.directory root) hfounded call.op hu, u',
      (separates_alike hacc around).others call hne halike, hu'⟩

/-- A root that neither is there nor can be made. -/
theorem separates_stuck (hno : ¬ ∃ around, t.Leads root.stem around)
    (hstuck : Accepted root.stem → t.at? root.stem ≠ .error .notFound) :
    Separates root tenant fun u u' => u = t ∧ u' = t where
  own := by
    rintro call -
    have hkeep := Directory.preserves_call_of_stuck (d := call.directory root) hno hstuck call.op
    rintro _ _ ⟨rfl, rfl⟩
    have hafter := hkeep _ rfl
    exact ⟨rfl, hafter, hafter⟩
  others call _ := by
    rintro _ _ ⟨rfl, rfl⟩
    exact ⟨Directory.preserves_call_of_stuck (d := call.directory root) hno hstuck call.op _ rfl, rfl⟩

/-- **A tenant is separated** from the others, whatever becomes of the root. -/
theorem exists_separates (hrooted : t.Rooted)
    (hroot : HasRoot root t ∨ IsStraight (root.child tenant)) :
    ∃ R, Separates root tenant R ∧ R t t := by
  by_cases hacc : Accepted (root.child tenant)
  · by_cases hleads : ∃ around, t.Leads root.stem around
    · obtain ⟨around, hleads⟩ := hleads
      exact ⟨_, separates_alike hacc around, hleads, hleads, .refl _ t⟩
    · have hstraight := hroot.resolve_left fun hthere => hleads hthere.exists_leads
      rw [FilePath.child_eq] at hstraight
      by_cases hmissing : Accepted root.stem ∧ t.at? root.stem = .error .notFound
      · obtain ⟨around, t₁, hfounded⟩ := FileTree.exists_founded hrooted hmissing.1
          (fun hup => hstraight.not_up (List.mem_append_left _ hup))
          (fun name hname => hstraight.short name (List.mem_append_left _ hname)) hmissing.2
        have hshort := hstraight.short tenant (by simp)
        have hmade := FileTree.leads_of_at? hfounded.there
        exact ⟨_, separates_completed hacc hshort hfounded, t₁, .inr ⟨rfl, rfl⟩, t₁,
          ⟨hmade, hmade, .refl _ t₁⟩, .inr ⟨rfl, rfl⟩⟩
      · exact ⟨_, separates_stuck hleads fun hstem hat => hmissing ⟨hstem, hat⟩, rfl, rfl⟩
  · exact ⟨_, separates_of_not_accepted hacc, trivial⟩

end Roots

/-- **Tenants are isolated.**  Each is answered as if the others had not been there, if the root is
    there from the start, or the path of its directory is straight; the files that it has to do with
    lie directly in its directory, and the recorded run is the run; and no file is that of two tenants
    or of two entries. -/
theorem isolates_tenants (root : FilePath) :
    (∀ (tenant : String) (calls : List TenantCall) (t : FileTree), t.Rooted →
      HasRoot root t ∨ IsStraight (root.child tenant) →
      (tenantAnswers root calls t).filter (·.1 = tenant)
        = tenantAnswers root (calls.filter (·.tenant = tenant)) t)
    ∧ (∀ (call : TenantCall) (t : FileTree),
      (call.run root (⟨t, []⟩ : Recorded)).1 = (call.run root t).1
      ∧ (call.run root (⟨t, []⟩ : Recorded)).2.tree = (call.run root t).2
      ∧ ∀ path ∈ (call.run root (⟨t, []⟩ : Recorded)).2.used,
        (call.directory root).IsDirectlyIn path)
    ∧ ∀ (call call' : TenantCall) (id id' : EntryId),
      (call.directory root).entryPath id = (call'.directory root).entryPath id'
        ↔ call.tenant = call'.tenant ∧ id = id' := by
  refine ⟨fun tenant calls t hrooted hroot => ?_, fun call t => ?_, fun call call' id id' => ?_⟩
  · obtain ⟨R, hseparates, hR⟩ := exists_separates hrooted hroot
    exact hseparates.filter_answers calls hR
  · obtain ⟨hanswer, htree, howns⟩ :=
      Directory.owns_of_recorded_call (call.directory root) call.op t
    exact ⟨hanswer, htree, fun path hpath => (howns path hpath).isDirectlyIn⟩
  · have hroot : (call.directory root).root = (call'.directory root).root := rfl
    exact Directory.entryPath_eq_iff hroot

/-- An entry is found by its tenant after another one has deleted his of the same number. -/
theorem isolates_tenants_sample : ∃ calls : List TenantCall,
    FileTree.empty.Rooted ∧ IsStraight (FilePath.child ["r"] "a")
    ∧ calls = [⟨"a", by decide, .save (some EntryId.first) { body := "x" }⟩,
      ⟨"b", by decide, .delete EntryId.first⟩, ⟨"a", by decide, .fetch EntryId.first⟩]
    ∧ (tenantAnswers ["r"] calls FileTree.empty).filter (·.1 = "a")
      = [("a", .ok (.saved ⟨EntryId.first, ({ body := "x" } : Document).recoded⟩)),
        ("a", .ok (.found (some ⟨EntryId.first, ({ body := "x" } : Document).recoded⟩)))] := by
  have hstraight : IsStraight (FilePath.child ["r"] "a") := ⟨by decide, by decide⟩
  refine ⟨_, FileTree.rooted_empty, hstraight, rfl, ?_⟩
  rw [(isolates_tenants ["r"]).1 "a" _ FileTree.empty FileTree.rooted_empty (.inr hstraight)]
  rfl

/-- A name of 256 characters, which is too long for a file. -/
def longTenant : String :=
  String.ofList (List.replicate 256 'b')

theorem utf8ByteSize_longTenant : longTenant.utf8ByteSize = 256 := by
  decide +kernel

theorem longTenant_ne {s : String} (h : s.utf8ByteSize < 256) : longTenant ≠ s := by
  rintro rfl
  rw [utf8ByteSize_longTenant] at h
  omega

theorem isTenantName_longTenant : isTenantName longTenant = true := by
  refine Directory.isTenantName_iff.mpr ⟨longTenant_ne (by decide), longTenant_ne (by decide),
    longTenant_ne (by decide), fun c hc => ?_⟩
  have hb : c = 'b' := List.eq_of_mem_replicate (String.toList_ofList ▸ hc)
  subst hb
  decide

/-- The directory under that name, below a root that may be missing. -/
def Directory.long : Directory :=
  ⟨["r"], longTenant, isTenantName_longTenant⟩

theorem Directory.accepted_long : FileTree.Accepted (Directory.long.path ++ [fileName EntryId.first]) := by
  have hroot : FileTree.Accepted ["r"] :=
    FileTree.accepted_of_locate (t := FileTree.empty) (l := [FileName.ofText "r"]) rfl
  have hsize : (FilePath.text (["r"] ++ [longTenant])).utf8ByteSize = 258 := by
    rw [FileTree.utf8ByteSize_text_concat (by simp), utf8ByteSize_longTenant]
    rfl
  have hpath : FileTree.Accepted (["r"] ++ [longTenant]) := by
    refine hroot.concat (nul_not_mem_of_isTenantName isTenantName_longTenant) ?_
    rw [FileTree.isTooLong, hsize]
    rfl
  refine FileTree.Accepted.concat hpath (isFileName_fileName _).no_nul ?_
  have hentry : (FilePath.text (["r"] ++ [longTenant] ++ [fileName EntryId.first])).utf8ByteSize
      = 263 := by
    rw [FileTree.utf8ByteSize_text_concat (by simp), hsize]
    rfl
  show FileTree.isTooLong (["r"] ++ [longTenant] ++ [fileName EntryId.first]) = false
  rw [FileTree.isTooLong, hentry]
  rfl

/-- A call that changes what another tenant is answered. -/
theorem filter_answers_ne {root : FilePath} {t : FileTree} {other own : TenantCall}
    (hother : other.tenant ≠ own.tenant)
    (hchange : (own.run root (other.run root t).2).1 ≠ (own.run root t).1) :
    (tenantAnswers root [other, own] t).filter (·.1 = own.tenant)
      ≠ tenantAnswers root ([other, own].filter (·.tenant = own.tenant)) t := by
  intro h
  rw [List.filter_cons_of_neg (by simpa using hother), List.filter_cons_of_pos (by simp),
    List.filter_nil, tenantAnswers_cons, tenantAnswers_cons, tenantAnswers_cons,
    List.filter_cons_of_neg (by simpa using hother), List.filter_cons_of_pos (by simp)] at h
  exact hchange (Prod.mk.inj (List.cons.inj h).1).2

/-- **What gives another tenant away**: to make the root, where its path goes up behind it, uncovers
    an entry; and in a root that was made, a name that is too long is refused. -/
theorem not_separate :
    (∃ (tenant : String) (calls : List TenantCall), FileTree.upward.Rooted
      ∧ (tenantAnswers Directory.upward.root calls FileTree.upward).filter (·.1 = tenant)
        ≠ tenantAnswers Directory.upward.root (calls.filter (·.tenant = tenant)) FileTree.upward)
    ∧ ∃ (tenant : String) (calls : List TenantCall), FileTree.empty.Rooted
      ∧ (tenantAnswers ["r"] calls FileTree.empty).filter (·.1 = tenant)
        ≠ tenantAnswers ["r"] (calls.filter (·.tenant = tenant)) FileTree.empty := by
  let save : TenantCall := ⟨"x", by decide, .save (some EntryId.first) {}⟩
  constructor
  · let fetch : TenantCall := ⟨"_", by decide, .fetch EntryId.first.next⟩
    have hbehind : (fetch.run Directory.upward.root
        (save.run Directory.upward.root FileTree.upward).2).1
        = .ok (.found (some ⟨EntryId.first.next, FrontMatter.decodeDocument "Two"⟩)) := by
      decide +kernel
    have halone : (fetch.run Directory.upward.root FileTree.upward).1 = .ok (.found none) := by
      decide +kernel
    have hother : save.tenant ≠ fetch.tenant := by decide
    have hchange : (fetch.run Directory.upward.root
        (save.run Directory.upward.root FileTree.upward).2).1
        ≠ (fetch.run Directory.upward.root FileTree.upward).1 := by
      rw [hbehind, halone]
      simp
    exact ⟨_, [save, fetch], FileTree.rooted_upward, filter_answers_ne hother hchange⟩
  · let fetch : TenantCall := ⟨longTenant, isTenantName_longTenant, .fetch EntryId.first⟩
    have hacc := Directory.accepted_long.of_concat Directory.long.path_ne_nil
    have hmissing : FileTree.empty.at? (["r"] ++ [longTenant]) = .error .notFound :=
      FileTree.at?_concat_of_error (List.cons_ne_nil _ _) hacc rfl
    have halone : (fetch.run ["r"] FileTree.empty).1 = .ok (.found none) :=
      Directory.answer_fetch_of_error Directory.accepted_long hmissing
    have hthere : (save.run ["r"] FileTree.empty).2.isDirectory ["r"] = true := by
      decide +kernel
    obtain ⟨around, hroot⟩ := FileTree.isDirectory_iff.mp hthere
    have hlong : FileTree.maxNameSize < Directory.long.tenant.utf8ByteSize :=
      Nat.lt_of_lt_of_eq (by decide) utf8ByteSize_longTenant.symm
    have hbehind : (fetch.run ["r"] (save.run ["r"] FileTree.empty).2).1
        = .error (.file .nameTooLong) :=
      Directory.answer_fetch_of_error Directory.accepted_long
        (Directory.at?_path_of_long (FileTree.leads_of_at? hroot) hacc hlong)
    have hother : save.tenant ≠ fetch.tenant := (longTenant_ne (by decide)).symm
    have hchange : (fetch.run ["r"] (save.run ["r"] FileTree.empty).2).1
        ≠ (fetch.run ["r"] FileTree.empty).1 := by
      rw [hbehind, halone]
      simp
    exact ⟨_, [save, fetch], FileTree.rooted_empty, filter_answers_ne hother hchange⟩

end Redline
