/-
  Confirming again — a confirmation that fails is as if it had never been.

  1. **Failures** — to prepare a form changes nothing.  To confirm a session, if it fails, leaves what
     the store holds, and brings nothing new to light where it was refused by plan or where the store
     was `Ready` (`LeavesNoTrace.confirm`).
  2. **Runs** — a store may leave something behind where a save fails, but nothing that it can see
     itself: the state after it and the state before it are the `Same` to all later calls, and the
     next save leaves one state in both (`Recovers`).  So a run without confirmations that failed in
     it goes side by side with the run (`Recovers.alike_performAll`), and what is saved at the end is
     saved as if they had never been.
  3. **Both stores** — in memory a save does not fail by itself.  In a directory it can leave the
     directory behind, which does not matter where nothing comes to light with it
     (`forgetsFailures`); where the path goes up behind a directory that is missing, something may
     (`not_forgetsFailures`).
-/
import Redline.Proofs.Preview.Planned
import Redline.Proofs.Store.Made

namespace Redline

variable {σ : Type}

/-! ## Failures -/

/-- Whatever a save that fails leaves behind in a state that is `Ready`, later calls do not see it: the
    store answers alike in states that are the `Same`, and a save that succeeds leaves one state in
    both. -/
structure DocumentStore.Recovers (store : DocumentStore (StateM σ)) (Ready : σ → Prop)
    (Same : σ → σ → Prop) : Prop where
  alike : store.AnswersAlike Same store
  failed : ∀ {id? document st st' st'' cause}, Same st st' → Ready st' →
    outcome (store.save id? document) st' = (.error cause, st'') → Same st st''
  saved : ∀ {id? document st st' st'' e}, Same st st' →
    outcome (store.save id? document) st' = (.ok e, st'') →
      outcome (store.save id? document) st = (.ok e, st'')

/-- What a store has to do for its failures to be forgotten: to look for an entry changes nothing, a
    save that succeeds is found and one that fails takes no entry away, and if the store can hold an
    entry at all, it recovers from failures, beginning in any state that is `Sound`. -/
structure DocumentStore.LeavesNoTrace (store : DocumentStore (StateM σ)) (Sound Ready : σ → Prop) :
    Prop where
  fetch : ∀ id st, (outcome (store.fetch id) st).2 = st
  holds : ∀ {id? document st st' e},
    outcome (store.save id? document) st = (.ok e, st') → store.Holds st' e
  keeps : ∀ {id? document st st' cause e},
    outcome (store.save id? document) st = (.error cause, st') → store.Holds st e → store.Holds st' e
  recovers : ∀ {st e}, store.Holds st e →
    ∃ Same, store.Recovers Ready Same ∧ ∀ st, Sound st → Same st st

namespace DocumentStore.LeavesNoTrace

variable {store : DocumentStore (StateM σ)} {Sound Ready : σ → Prop} {session : Session} {st st' : σ}
  {plan plan' : FaultPlan} {error : PreviewError}

/-- **To prepare a form** leaves the state as it was, whether it succeeds or fails. -/
theorem prepare (h : store.LeavesNoTrace Sound Ready) (mode : PreviewMode) (form : EntryForm) (st : σ)
    (plan : FaultPlan) : (previewOutcome (store.faulty.prepare mode form) (st, plan)).2.1 = st := by
  have hfetch : ∀ id, Preserves (fun s => s.1 = st) (store.faulty.fetch id).run := by
    rintro id ⟨st', plan'⟩ hst
    show (outcome (joined (guarded FaultPlan.fetchQueue (store.fetch id))) (st', plan')).2.1 = st
    rw [outcome_joined_guarded]
    split
    · exact hst
    · exact (h.fetch id st').trans hst
  exact preserves_prepare hfetch mode form (st, plan) rfl

/-- **A confirmation that fails** by plan leaves the state as it was.  However it fails, it takes no
    entry away, and it adds none if it fails by plan or in a state that is ready. -/
theorem confirm (h : store.LeavesNoTrace Sound Ready)
    (hconfirm : previewOutcome (store.faulty.confirm session) (st, plan)
      = (.error error, (st', plan'))) :
    (plan.RefusesSave → st' = st) ∧ (∀ e, store.Holds st e → store.Holds st' e)
      ∧ (Sound st → plan.RefusesSave ∨ Ready st → ∀ e, store.Holds st' e → store.Holds st e) := by
  rcases cases_confirm_error hconfirm with ⟨-, rfl⟩ | ⟨hallowed, cause, hsave⟩
  · exact ⟨fun _ => rfl, fun _ he => he, fun _ _ _ he => he⟩
  · refine ⟨fun hrefuses => absurd hrefuses hallowed, fun e he => h.keeps hsave he,
      fun hsound hready e he => ?_⟩
    obtain ⟨Same, hrecovers, hrefl⟩ := h.recovers he
    have hsame := hrecovers.failed (hrefl st hsound) (hready.resolve_left hallowed) hsave
    -- What is found after the failure is found before it.
    have hanswer : (outcome (store.fetch e.id) st).1 = (outcome (store.fetch e.id) st').1 :=
      (hrecovers.alike.fetch e.id st st' hsame).1
    have hfound : (outcome (store.fetch e.id) st').1 = .ok (some e) := congrArg Prod.fst he
    exact Prod.ext (hanswer.trans hfound) (h.fetch e.id st)

end DocumentStore.LeavesNoTrace

/-! ## Runs -/

/-- `kept` are the steps without some of the confirmations among them that fail where they stand, each
    of them by plan or in a state that is ready. -/
inductive Desk.Spares (store : DocumentStore (StateM σ)) (Ready : σ → Prop) :
    Desk σ → List PlannedStep → List PlannedStep → Prop where
  | nil {desk : Desk σ} : Spares store Ready desk [] []
  | keep {desk : Desk σ} {s : PlannedStep} {steps kept : List PlannedStep}
      (h : Spares store Ready (desk.perform store s) steps kept) :
      Spares store Ready desk (s :: steps) (s :: kept)
  | spare {desk : Desk σ} {number : Nat} {faults : FaultPlan} {error : PreviewError} {st : σ}
      {steps kept : List PlannedStep}
      (hfails : desk.confirmUnder? store faults number = some (.error error, st))
      (hready : faults.RefusesSave ∨ Ready desk.state)
      (h : Spares store Ready (desk.perform store ⟨.confirm number, faults⟩) steps kept) :
      Spares store Ready desk (⟨.confirm number, faults⟩ :: steps) kept

namespace DocumentStore.Recovers

variable {store : DocumentStore (StateM σ)} {Ready : σ → Prop} {Same : σ → σ → Prop}
  {desk desk' : Desk σ}

/-- A confirmation that fails leaves a desk that is the same to all that comes. -/
theorem alike_of_confirm_error (hstore : store.Recovers Ready Same) (hdesk : desk.Alike Same desk')
    {number : Nat} {faults : FaultPlan} {error : PreviewError} {st : σ}
    (hfails : desk'.confirmUnder? store faults number = some (.error error, st))
    (hready : faults.RefusesSave ∨ Ready desk'.state) :
    desk.Alike Same (desk'.perform store ⟨.confirm number, faults⟩) := by
  obtain ⟨session, left, -, hconfirm⟩ := Desk.confirmUnder?_eq_some_iff.mp hfails
  rw [Desk.perform_confirm hfails]
  refine ⟨?_, hdesk.sessions⟩
  rcases DocumentStore.cases_confirm_error hconfirm with
    ⟨-, rfl⟩ | ⟨hallowed, cause, hsave⟩
  · exact hdesk.state
  · exact hstore.failed hdesk.state (hready.resolve_left hallowed) hsave

/-- **A run without confirmations that failed in it** goes side by side with the run. -/
theorem alike_performAll (hstore : store.Recovers Ready Same) (hdesk : desk.Alike Same desk')
    {steps kept : List PlannedStep} (h : desk'.Spares store Ready steps kept) :
    (desk.performAll store kept).Alike Same (desk'.performAll store steps) := by
  induction h generalizing desk with
  | nil => exact hdesk
  | keep _ ih => exact ih (hstore.alike.perform hdesk _)
  | spare hfails hready _ ih => exact ih (hstore.alike_of_confirm_error hdesk hfails hready)

/-- **What is saved** at one of two such desks is saved at the other, and leaves the same state. -/
theorem confirmUnder?_of_alike (hstore : store.Recovers Ready Same) (hdesk : desk.Alike Same desk')
    {faults : FaultPlan} {number : Nat} {e : Entry} {st : σ}
    (h : desk'.confirmUnder? store faults number = some (.ok e, st)) :
    desk.confirmUnder? store faults number = some (.ok e, st) := by
  obtain ⟨session, left, hsession, hconfirm⟩ := Desk.confirmUnder?_eq_some_iff.mp h
  obtain ⟨hsave, hagain⟩ := save_of_confirm_ok hconfirm
  exact Desk.confirmUnder?_eq_some_iff.mpr ⟨session, left, hdesk.sessions ▸ hsession,
    hagain desk.state (hstore.saved hdesk.state hsave)⟩

end DocumentStore.Recovers

/-- Failures in previews over the store are as if they had never been: a form that is prepared leaves
    the state as it was; a confirmation that fails leaves the entries that are held, and adds none;
    and what is saved at the end of a run, and the state that it leaves, are the same without
    confirmations that failed in the run, whether each step has faults of its own or one plan has them
    for the whole run.  What a confirmation adds, and which ones can be left out, is said of those that
    fail by plan or in a state that is `Ready`. -/
structure DocumentStore.ForgetsFailures (store : DocumentStore (StateM σ)) (Sound Ready : σ → Prop) :
    Prop where
  prepare : ∀ mode form st plan,
    (previewOutcome (store.faulty.prepare mode form) (st, plan)).2.1 = st
  confirm : ∀ {session st plan error st' plan'},
    previewOutcome (store.faulty.confirm session) (st, plan) = (.error error, (st', plan')) →
      (plan.RefusesSave → st' = st) ∧ (∀ e, store.Holds st e → store.Holds st' e)
        ∧ (Sound st → plan.RefusesSave ∨ Ready st → ∀ e, store.Holds st' e → store.Holds st e)
  retry : ∀ {desk steps kept faults number e st}, Sound desk.state →
    Desk.Spares store Ready desk steps kept →
      (desk.performAll store steps).confirmUnder? store faults number = some (.ok e, st) →
        (desk.performAll store kept).confirmUnder? store faults number = some (.ok e, st)
  onePlan : ∀ {desk : Desk (σ × FaultPlan)} {steps kept number e st plan}, Sound desk.state.1 →
    Desk.Spares store Ready desk.bare (desk.schedule store steps) kept →
      (desk.run store.faulty steps).confirm? store.faulty number = some (.ok e, (st, plan)) →
        (desk.bare.performAll store kept).confirmUnder? store (desk.run store.faulty steps).state.2
          number = some (.ok e, st)

theorem DocumentStore.LeavesNoTrace.retry {store : DocumentStore (StateM σ)}
    {Sound Ready : σ → Prop} (h : store.LeavesNoTrace Sound Ready) {desk : Desk σ}
    {steps kept : List PlannedStep} {faults : FaultPlan} {number : Nat} {e : Entry} {st : σ}
    (hsound : Sound desk.state) (hspares : desk.Spares store Ready steps kept)
    (hconfirm : (desk.performAll store steps).confirmUnder? store faults number
      = some (.ok e, st)) :
    (desk.performAll store kept).confirmUnder? store faults number = some (.ok e, st) := by
  -- What was saved shows that the store can hold an entry.
  have hheld : store.Holds st e := by
    obtain ⟨session, left, -, houtcome⟩ := Desk.confirmUnder?_eq_some_iff.mp hconfirm
    exact h.holds (save_of_confirm_ok houtcome).1
  obtain ⟨Same, hrecovers, hrefl⟩ := h.recovers hheld
  have hdesk : desk.Alike Same desk := ⟨hrefl _ hsound, rfl⟩
  exact hrecovers.confirmUnder?_of_alike (hrecovers.alike_performAll hdesk hspares) hconfirm

/-- The four parts, for a store that leaves no trace of its failures. -/
theorem DocumentStore.LeavesNoTrace.forgets {store : DocumentStore (StateM σ)}
    {Sound Ready : σ → Prop} (h : store.LeavesNoTrace Sound Ready) :
    store.ForgetsFailures Sound Ready where
  prepare := h.prepare
  confirm := h.confirm
  retry := h.retry
  onePlan {desk steps kept number e st plan} hsound hspares hconfirm := by
    refine h.retry hsound hspares ?_
    rw [Desk.performAll_schedule]
    exact Option.map_eq_some_iff.mpr ⟨_, hconfirm, rfl⟩

/-! ## Both stores -/

/-- A store in memory never fails, so equal states are enough. -/
theorem Memory.recovers : Memory.store.Recovers (fun _ => True) Eq where
  alike := {
    fetch := fun _ _ _ h => h ▸ ⟨rfl, rfl⟩
    save := fun _ _ _ _ h => h ▸ ⟨rfl, rfl⟩
    list := fun _ _ h => h ▸ ⟨rfl, rfl⟩
    delete := fun _ _ _ h => h ▸ ⟨rfl, rfl⟩ }
  failed _ _ hsave := by
    rw [Memory.outcome_save] at hsave
    cases hsave
  saved hsame hsave := hsame ▸ hsave

/-- It is ready whatever it holds. -/
theorem Memory.leavesNoTrace : Memory.store.LeavesNoTrace (fun _ => True) fun _ => True where
  fetch _ _ := rfl
  holds hsave := (Memory.holds_of_save_ok hsave).1
  keeps hsave := by
    rw [Memory.outcome_save] at hsave
    cases hsave
  recovers _ := ⟨Eq, Memory.recovers, fun _ _ => rfl⟩

/-- A directory that was made by a save that failed is the one trace there can be. -/
theorem Directory.recovers {d : Directory} (h : d.Usable) : d.store.Recovers d.IsSheltered d.Made where
  alike := d.answersAlike_made
  failed hmade hsheltered hsave := hmade.trans (made_of_save_error h hmade.rooted hsheltered hsave)
  saved {id? document _ _ _ _} hmade hsave := (hmade.save_eq id? document).trans hsave

theorem Directory.leavesNoTrace (d : Directory) :
    d.store.LeavesNoTrace FileTree.Rooted d.IsSheltered where
  fetch id t := congrArg Prod.snd (outcome_fetch d id t)
  holds hsave := (holds_of_save_ok hsave).1
  keeps hsave he := by
    obtain ⟨dir, -, -, hthere, -⟩ := exists_of_holds he
    rwa [state_of_store_save_error (isSettled_of_directory hthere) hsave]
  recovers he := by
    obtain ⟨dir, -, -, hthere, -⟩ := exists_of_holds he
    exact ⟨d.Made, recovers (usable_of_directory hthere), fun t ht => d.made_refl ht⟩

/-- **Failed previews are forgotten**, by a store in memory in every state, by a directory in every
    tree, as far as the directory was there or its path does not go up; and in any case no file of a
    directory is changed by a confirmation that fails. -/
theorem forgetsFailures :
    Memory.store.ForgetsFailures (fun _ => True) (fun _ => True)
    ∧ ∀ d : Directory, d.store.ForgetsFailures FileTree.Rooted d.IsSheltered
      ∧ ∀ {session t plan error t' plan'},
        previewOutcome (d.store.faulty.confirm session) (t, plan) = (.error error, (t', plan')) →
          FileTree.SameFiles t t' := by
  refine ⟨Memory.leavesNoTrace.forgets, fun d => ⟨d.leavesNoTrace.forgets, ?_⟩⟩
  intro session t plan error t' plan' hconfirm
  rcases DocumentStore.cases_confirm_error hconfirm with ⟨-, rfl⟩ | ⟨-, cause, hsave⟩
  · exact .refl _
  · exact Directory.sameFiles_of_store_save_error hsave

/-! ## Runs with failures -/

/-- A second entry, beside a directory in the place of the first one; as in `FileTree.upward`, the
    directory is missing behind which the path of `Directory.upward` goes up. -/
def FileTree.blocked : FileTree :=
  FileTree.upward.put
    [FileName.ofText "b", FileName.ofText "_", Directory.entryName EntryId.first] .directory

theorem FileTree.rooted_blocked : FileTree.blocked.Rooted :=
  FileTree.rooted_upward.put (by decide) (by rfl) (.inl rfl)

/-- The same tree, once that directory was made. -/
def FileTree.opened : FileTree :=
  FileTree.blocked.put [FileName.ofText "a"] .directory

/-- The directory of the second entry, by a path that does not go up. -/
def Directory.straight : Directory :=
  ⟨["b"], Directory.defaultTenant, Directory.isTenantName_defaultTenant⟩

/-- The session of a new entry. -/
def Session.sample (mode : PreviewMode) : Session :=
  .prepared mode { title := "One" } none

/-- A new entry is the third one beside these two names. -/
theorem Directory.outcome_save_third {d : Directory} {t : FileTree} {dir : Location}
    (hdir : t.at? d.path = .ok (dir, .directory))
    (hnames : t.children dir = [entryName EntryId.first, entryName EntryId.first.next])
    (document : Document) : outcome (d.save none document) t
      = outcome (d.save (some EntryId.first.next.next) document) t := by
  have hids : outcome d.ids t = (.ok [EntryId.first, EntryId.first.next], t) := by
    have hsorted : idsOfNames [entryName EntryId.first, entryName EntryId.first.next]
        = [EntryId.first, EntryId.first.next] := idsOfNames_of_perm (.refl _) (by decide)
    rw [outcome_ids_of_directory hdir, hnames, hsorted]
  have hnew : outcome d.newId t = (.ok EntryId.first.next.next, t) := by
    rw [newId, outcome_bind_of_ok hids]
    rfl
  rw [save_none, outcome_bind_of_ok hnew]

/-- In a store in memory, a form is prepared and refused twice, and between that a list and another
    form are refused; then it can be confirmed. -/
def PlannedStep.sample : List PlannedStep :=
  [⟨.prepare (.create none) { title := "One" }, {}⟩,
    ⟨.confirm 0, { save := [some (.backend "down")] }⟩,
    ⟨.ask .list, { list := [some .readOnly] }⟩,
    ⟨.prepare (.create (some EntryId.first)) { title := "Two" }, { fetch := [some .readOnly] }⟩,
    ⟨.confirm 0, { save := [some .readOnly] }⟩]

/-- A desk over `FileTree.blocked`, with a session for the first entry from before the directory in
    its place was there, and with a plan that refuses the second save. -/
def Desk.blocked : Desk (FileTree × FaultPlan) :=
  ⟨(FileTree.blocked, { save := [none, some .readOnly] }), [.sample (.create (some EntryId.first))]⟩

/-- The session of that desk is confirmed, and a new one is prepared and confirmed. -/
def DeskStep.sample : List DeskStep :=
  [.confirm 0, .prepare (.create none) { title := "One" }, .confirm 1]

/-- In memory the refused confirmations do not matter.  In a directory the first confirmation fails of
    itself and the second by plan; the session is saved without them as it is with them. -/
theorem forgetsFailures_sample :
    (∃ kept e s, (⟨Memory.empty, []⟩ : Desk Memory).Spares Memory.store (fun _ => True)
        PlannedStep.sample kept ∧ kept.length = 3
      ∧ ((⟨Memory.empty, []⟩ : Desk Memory).performAll Memory.store
          PlannedStep.sample).confirmUnder? Memory.store {} 0 = some (.ok e, s)
      ∧ ((⟨Memory.empty, []⟩ : Desk Memory).performAll Memory.store kept).confirmUnder?
          Memory.store {} 0 = some (.ok e, s)
      ∧ e.id = EntryId.first)
    ∧ (∃ kept e t plan, Desk.blocked.state.1.Rooted
      ∧ Desk.blocked.bare.Spares Directory.straight.store Directory.straight.IsSheltered
          (Desk.blocked.schedule Directory.straight.store DeskStep.sample) kept ∧ kept.length = 1
      ∧ (Desk.blocked.run Directory.straight.store.faulty DeskStep.sample).confirm?
          Directory.straight.store.faulty 1 = some (.ok e, (t, plan))
      ∧ (Desk.blocked.bare.performAll Directory.straight.store kept).confirmUnder?
          Directory.straight.store
          (Desk.blocked.run Directory.straight.store.faulty DeskStep.sample).state.2 1
        = some (.ok e, t)
      ∧ e.id = EntryId.first.next.next)
    ∧ previewOutcome (Directory.upward.store.faulty.confirm (.sample (.create none)))
        (FileTree.blocked, {}) = (.error (.store (.file .isADirectory)), (FileTree.opened, {}))
    ∧ FileTree.SameFiles FileTree.blocked FileTree.opened := by
  refine ⟨?_, ?_, ?_⟩
  · have hspares : (⟨Memory.empty, []⟩ : Desk Memory).Spares Memory.store (fun _ => True)
        PlannedStep.sample _ :=
      .keep (.spare rfl (.inr trivial) (.keep (.keep (.spare rfl (.inr trivial) .nil))))
    have hconfirm : ((⟨Memory.empty, []⟩ : Desk Memory).performAll Memory.store
        PlannedStep.sample).confirmUnder? Memory.store {} 0
        = some (.ok ⟨EntryId.first, _⟩, _) := rfl
    exact ⟨_, _, _, hspares, rfl, hconfirm, forgetsFailures.1.retry trivial hspares hconfirm, rfl⟩
  · have hspares : Desk.blocked.bare.Spares Directory.straight.store Directory.straight.IsSheltered
        (Desk.blocked.schedule Directory.straight.store DeskStep.sample) _ :=
      .spare (by rfl) (.inr (.inr (by decide)))
        (.keep (.spare (by rfl) (.inl ⟨_, rfl⟩) .nil))
    have hrun : Desk.blocked.run Directory.straight.store.faulty DeskStep.sample
        = ⟨(FileTree.blocked, {}),
            [.sample (.create (some EntryId.first)), .sample (.create none)]⟩ := by
      rfl
    obtain ⟨e, t, hsave, hid⟩ : ∃ e t, outcome (Directory.straight.store.save none
        (Session.sample (.create none)).candidate) FileTree.blocked = (.ok e, t)
          ∧ e.id = EntryId.first.next.next :=
      ⟨⟨_, _⟩, _, (Directory.outcome_save_third (by rfl) (by rfl) _).trans (by rfl), rfl⟩
    have hconfirm : (Desk.blocked.run Directory.straight.store.faulty DeskStep.sample).confirm?
        Directory.straight.store.faulty 1 = some (.ok e, (t, {})) := by
      rw [hrun]
      refine congrArg some (DocumentStore.confirm_eq_ok_iff.mpr ?_)
      refine (outcome_joined_guarded _ _ _ _).trans ?_
      exact congrArg (fun done => (done.1, (done.2, ({} : FaultPlan)))) hsave
    exact ⟨_, e, t, {}, FileTree.rooted_blocked, hspares, rfl, hconfirm,
      (forgetsFailures.2 Directory.straight).1.onePlan FileTree.rooted_blocked hspares hconfirm, hid⟩
  · have hfails : previewOutcome (Directory.upward.store.faulty.confirm (.sample (.create none)))
        (FileTree.blocked, {}) = (.error (.store (.file .isADirectory)), (FileTree.opened, {})) := by
      rfl
    exact ⟨hfails, (forgetsFailures.2 Directory.upward).2 hfails⟩

/-- **What comes to light**: where the path goes up behind a missing directory, a confirmation that
    fails makes that directory, and then a second entry is found that was not found before, and the
    same session can be confirmed as the third one, which it could not be. -/
theorem not_forgetsFailures :
    ¬ Directory.upward.store.ForgetsFailures FileTree.Rooted (fun _ => True)
    ∧ ∃ session second e t, FileTree.blocked.Rooted
      ∧ previewOutcome (Directory.upward.store.prepare (.create none) { title := "One" })
          FileTree.blocked = (.ok session, FileTree.blocked)
      ∧ previewOutcome (Directory.upward.store.confirm session) FileTree.blocked
        = (.error (.store (.file .isADirectory)), FileTree.opened)
      ∧ previewOutcome (Directory.upward.store.confirm session) FileTree.opened = (.ok e, t)
      ∧ e.id = EntryId.first.next.next
      ∧ ¬ Directory.upward.store.Holds FileTree.blocked second
      ∧ Directory.upward.store.Holds FileTree.opened second := by
  have hprepare : previewOutcome (Directory.upward.store.prepare (.create none) { title := "One" })
      FileTree.blocked = (.ok (.sample (.create none)), FileTree.blocked) :=
    DocumentStore.prepare_eq_ok_iff.mpr ⟨by rfl, none, rfl, rfl⟩
  have hfails : previewOutcome (Directory.upward.store.confirm (.sample (.create none)))
      FileTree.blocked = (.error (.store (.file .isADirectory)), FileTree.opened) := by rfl
  obtain ⟨e, t, hsave, hid⟩ : ∃ e t, outcome (Directory.upward.store.save none
      (Session.sample (.create none)).candidate) FileTree.opened = (.ok e, t)
        ∧ e.id = EntryId.first.next.next :=
    ⟨⟨_, _⟩, _, (Directory.outcome_save_third (by rfl) (by rfl) _).trans (by rfl), rfl⟩
  let second : Entry := ⟨EntryId.first.next, FrontMatter.decodeDocument "Two"⟩
  have hbefore : ¬ Directory.upward.store.Holds FileTree.blocked second := by
    intro h
    have hmissing : (outcome (Directory.upward.store.fetch EntryId.first.next) FileTree.blocked).1
        = .ok none := by rfl
    rw [congrArg Prod.fst h] at hmissing
    cases hmissing
  have hafter : Directory.upward.store.Holds FileTree.opened second := by
    show outcome (Directory.upward.store.fetch EntryId.first.next) FileTree.opened
      = (.ok (some second), FileTree.opened)
    rfl
  refine ⟨fun hforgets => ?_, _, second, e, t, FileTree.rooted_blocked, hprepare, hfails,
    DocumentStore.confirm_eq_ok_iff.mpr hsave, hid, hbefore, hafter⟩
  have hfaulty : previewOutcome (Directory.upward.store.faulty.confirm (.sample (.create none)))
      (FileTree.blocked, {}) = (.error (.store (.file .isADirectory)), (FileTree.opened, {})) := by
    rfl
  exact hbefore ((hforgets.confirm hfaulty).2.2 FileTree.rooted_blocked (.inr trivial) second hafter)

end Redline
