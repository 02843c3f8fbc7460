/-
  Sessions in any order — what was previewed is what is saved.

  A session is prepared at one time and confirmed at another, and much may happen to the store in
  between: it is asked for other things, other sessions are prepared and confirmed, and so may be
  this one.

  1. **Desks** — a store at work, with the sessions that were prepared over it.  A step is a question
     to the store, a form that is prepared, or a session that is confirmed.
  2. **Sessions** — a step may add one session to the others, so each of them stays what it is in
     every run (`getElem?_run`).
  3. **States** — at two desks with the same sessions, over stores that answer alike, a step goes
     alike (`AnswersAlike.step`).  A store that preserves something answers as it does itself, so what
     every call preserves, every step preserves, and so does every run (`Stable.run`).
  4. **Confirming** — a session that is confirmed in the state that a run has come to, if it is saved,
     is saved under its own target id and with its own candidate (`saved_confirm_run`).
-/
import Redline.Proofs.Preview.Calls
import Redline.Proofs.Store.Atomic
import Redline.Proofs.Store.Rooted

namespace Redline

variable {σ : Type}

/-! ## Desks -/

/-- A store at work: its state, and the sessions that were prepared over it, the first one first. -/
structure Desk (σ : Type) where
  state : σ
  sessions : List Session := []

/-- What can be done at a desk. -/
inductive DeskStep where
  | ask (op : Operation)
  | prepare (mode : PreviewMode) (form : EntryForm)
  | confirm (number : Nat)

namespace Desk

variable (store : DocumentStore (StateM σ))

/-- The desk once the form was prepared. -/
def prepare (desk : Desk σ) (mode : PreviewMode) (form : EntryForm) : Desk σ :=
  match previewOutcome (store.prepare mode form) desk.state with
  | (.ok session, st) => ⟨st, desk.sessions ++ [session]⟩
  | (.error _, st) => ⟨st, desk.sessions⟩

/-- What is answered when the session with that number is confirmed, and the state that is left. -/
def confirm? (desk : Desk σ) (number : Nat) : Option (Except PreviewError Entry × σ) :=
  desk.sessions[number]?.map fun session => previewOutcome (store.confirm session) desk.state

/-- The desk after one step. -/
def step (desk : Desk σ) : DeskStep → Desk σ
  | .ask op => ⟨(outcome (op.call store) desk.state).2, desk.sessions⟩
  | .prepare mode form => desk.prepare store mode form
  | .confirm number =>
    match desk.confirm? store number with
    | none => desk
    | some (_, st) => ⟨st, desk.sessions⟩

/-- The desk after one step after another. -/
def run (desk : Desk σ) (steps : List DeskStep) : Desk σ :=
  steps.foldl (step store) desk

variable {store} {desk : Desk σ} {mode : PreviewMode} {form : EntryForm}

/-! ## Sessions -/

theorem prepare_of_ok {session : Session} {st : σ}
    (h : previewOutcome (store.prepare mode form) desk.state = (.ok session, st)) :
    desk.prepare store mode form = ⟨st, desk.sessions ++ [session]⟩ := by
  rw [prepare, h]

/-- **A step** takes no session away and changes none. -/
theorem sessions_step (store : DocumentStore (StateM σ)) (desk : Desk σ) (s : DeskStep) :
    desk.sessions <+: (desk.step store s).sessions := by
  cases s with
  | ask op => exact List.prefix_rfl
  | prepare mode form =>
    show desk.sessions <+: (desk.prepare store mode form).sessions
    rw [prepare]
    split
    · exact List.prefix_append _ _
    · exact List.prefix_rfl
  | confirm number =>
    rw [step]
    split
    · exact List.prefix_rfl
    · exact List.prefix_rfl

/-- Sessions are added to a desk and never taken away. -/
theorem sessions_run (store : DocumentStore (StateM σ)) (desk : Desk σ) (steps : List DeskStep) :
    desk.sessions <+: (desk.run store steps).sessions := by
  induction steps generalizing desk with
  | nil => exact List.prefix_rfl
  | cons s steps ih => exact (sessions_step store desk s).trans (ih (desk.step store s))

/-- **A session stays what it is**, whatever is done. -/
theorem getElem?_run {number : Nat} {session : Session}
    (h : desk.sessions[number]? = some session) (steps : List DeskStep) :
    (desk.run store steps).sessions[number]? = some session := by
  obtain ⟨others, hsessions⟩ := sessions_run store desk steps
  obtain ⟨hlt, -⟩ := List.getElem?_eq_some_iff.mp h
  rw [← hsessions, List.getElem?_append_left hlt]
  exact h

end Desk

/-! ## Desks side by side -/

section Alike

variable {τ : Type}

/-- The sessions are the same, and the states stand in `R`. -/
structure Desk.Alike (R : σ → τ → Prop) (desk : Desk σ) (desk' : Desk τ) : Prop where
  state : R desk.state desk'.state
  sessions : desk.sessions = desk'.sessions

/-- **A step** over stores that answer alike. -/
theorem DocumentStore.AnswersAlike.step {R : σ → τ → Prop} {store : DocumentStore (StateM σ)}
    {store' : DocumentStore (StateM τ)} {desk : Desk σ} {desk' : Desk τ}
    (h : AnswersAlike R store store') (hdesk : desk.Alike R desk') (s : DeskStep) :
    (desk.step store s).Alike R (desk'.step store' s) := by
  obtain ⟨hstate, hsessions⟩ := hdesk
  cases s with
  | ask op => exact ⟨(h.call op _ _ hstate).2, hsessions⟩
  | prepare mode form =>
    have hprepare : (previewOutcome (store.prepare mode form) desk.state).1
          = (previewOutcome (store'.prepare mode form) desk'.state).1
        ∧ R (previewOutcome (store.prepare mode form) desk.state).2
          (previewOutcome (store'.prepare mode form) desk'.state).2 :=
      related_prepare h.fetch mode form _ _ hstate
    show (desk.prepare store mode form).Alike R (desk'.prepare store' mode form)
    rw [Desk.prepare, Desk.prepare]
    generalize previewOutcome (store.prepare mode form) desk.state = done at hprepare ⊢
    generalize previewOutcome (store'.prepare mode form) desk'.state = done' at hprepare ⊢
    obtain ⟨answer, st⟩ := done
    obtain ⟨answer', st'⟩ := done'
    obtain ⟨hanswer, hafter⟩ := hprepare
    cases hanswer
    cases answer with
    | error e => exact ⟨hafter, hsessions⟩
    | ok session => exact ⟨hafter, congrArg (· ++ [session]) hsessions⟩
  | confirm number =>
    rw [Desk.step, Desk.step, Desk.confirm?, Desk.confirm?, ← hsessions]
    cases desk.sessions[number]? with
    | none => exact ⟨hstate, hsessions⟩
    | some session => exact ⟨(h.confirm session _ _ hstate).2, rfl⟩

end Alike

/-! ## States -/

section Stable

variable {P : σ → Prop} {store : DocumentStore (StateM σ)}

/-- Whatever the store is asked, `P` stays true of its state. -/
def DocumentStore.Stable (store : DocumentStore (StateM σ)) (P : σ → Prop) : Prop :=
  ∀ op, Preserves P (Operation.call store op).run

variable (h : store.Stable P)
include h

/-- Such a store answers as it does itself, where both states are the same one, with `P`. -/
theorem DocumentStore.Stable.answersAlike :
    AnswersAlike (fun st st' => st = st' ∧ P st) store store where
  fetch id := related_self_iff.mpr (preserves_of_bind_pure (h (.fetch id)))
  save id? document := related_self_iff.mpr (preserves_of_bind_pure (h (.save id? document)))
  list := related_self_iff.mpr (preserves_of_bind_pure (h .list))
  delete id := related_self_iff.mpr (preserves_of_bind_pure (h (.delete id)))

/-- **A step** preserves what every call preserves. -/
theorem DocumentStore.Stable.step {desk : Desk σ} (hdesk : P desk.state) (s : DeskStep) :
    P (desk.step store s).state :=
  (h.answersAlike.step ⟨⟨rfl, hdesk⟩, rfl⟩ s).state.2

/-- **A run** preserves what every call preserves. -/
theorem DocumentStore.Stable.run {desk : Desk σ} (hdesk : P desk.state) (steps : List DeskStep) :
    P (desk.run store steps).state := by
  induction steps generalizing desk with
  | nil => exact hdesk
  | cons s steps ih => exact ih (h.step hdesk s)

end Stable

/-- A tree at a desk stays rooted. -/
theorem Directory.stable_rooted (d : Directory) : d.store.Stable FileTree.Rooted :=
  d.preserves_call FileTree.invariant_rooted

/-! ## Confirming -/

/-- What was saved of the session between `st` and `st'` is the entry `e`: it has the target id, or
    without one the id that any new entry would have got in `st`, and it is found in `st'`. -/
structure Session.IsSaved (session : Session) (store : DocumentStore (StateM σ)) (st : σ)
    (e : Entry) (st' : σ) : Prop where
  target : ∀ id ∈ session.mode.target, e.id = id
  fresh : session.mode.target = none → ∀ {document e' st₁},
    outcome (store.save none document) st = (.ok e', st₁) → e.id = e'.id
  held : store.Holds st' e

/-- In `st` and in `st'` the store finds the same under all other ids. -/
def DocumentStore.KeepsOthers (store : DocumentStore (StateM σ)) (st : σ) (e : Entry) (st' : σ) :
    Prop :=
  ∀ id, id ≠ e.id → (outcome (store.fetch id) st).1 = (outcome (store.fetch id) st').1

/-- The session that was prepared first is the one that is confirmed at the end. -/
theorem Desk.save_of_confirm? {store : DocumentStore (StateM σ)} {desk : Desk σ}
    {mode : PreviewMode} {form : EntryForm} {session : Session} {st st' : σ} {e : Entry}
    {steps : List DeskStep}
    (hprepare : previewOutcome (store.prepare mode form) desk.state = (.ok session, st))
    (hconfirm : (desk.run store (.prepare mode form :: steps)).confirm? store desk.sessions.length
      = some (.ok e, st')) :
    outcome (store.save session.mode.target session.candidate)
      (desk.run store (.prepare mode form :: steps)).state = (.ok e, st') := by
  have hfirst : (desk.prepare store mode form).sessions[desk.sessions.length]? = some session := by
    rw [prepare_of_ok hprepare, List.getElem?_concat_length]
  have hlater : (desk.run store (.prepare mode form :: steps)).sessions[desk.sessions.length]?
      = some session := getElem?_run hfirst steps
  rw [confirm?, hlater, Option.map_some, Option.some.injEq] at hconfirm
  exact DocumentStore.confirm_eq_ok_iff.mp hconfirm

/-- In memory the candidate itself is saved. -/
theorem Memory.isSaved_of_save {session : Session} {s s' : Memory} {e : Entry}
    (h : outcome (Memory.store.save session.mode.target session.candidate) s = (.ok e, s')) :
    session.IsSaved Memory.store s e s' ∧ e.document = session.candidate
      ∧ Memory.store.KeepsOthers s e s' := by
  obtain ⟨hheld, hdocument⟩ := Memory.holds_of_save_ok h
  rw [Memory.outcome_save] at h
  cases h
  refine ⟨⟨fun id hid => ?_, fun hnone {document e' s₁} hnew => ?_, hheld⟩, hdocument,
    fun id hne => ?_⟩
  · rw [Option.mem_def.mp hid]
    rfl
  · rw [Memory.outcome_save] at hnew
    cases hnew
    rw [hnone]
  · rw [Memory.outcome_fetch, Memory.outcome_fetch, Memory.get?_insert, if_neg hne]

theorem Directory.isSaved_of_save {d : Directory} {session : Session} {t t' : FileTree} {e : Entry}
    (hrooted : t.Rooted)
    (h : outcome (d.store.save session.mode.target session.candidate) t = (.ok e, t')) :
    session.IsSaved d.store t e t'
      ∧ (∃ l, t'.at? (d.entryPath e.id) = .ok (l, .file (written session.candidate)))
      ∧ ((∃ dir, t.at? d.path = .ok (dir, .directory)) ∨ ".." ∉ d.path →
        d.store.KeepsOthers t e t') := by
  obtain ⟨hheld, -⟩ := holds_of_save_ok h
  change outcome (d.save session.mode.target session.candidate) t = _ at h
  rcases d.cases_save session.mode.target session.candidate t with
    ⟨error, hrefused⟩ | ⟨id, htarget, hsave⟩
  · rw [hrefused] at h
    cases h
  · rw [hsave] at h
    have hid : e.id = id := by rw [(outcome_save_eq_ok_iff.mp h).1]
    refine ⟨⟨fun given hgiven => hid.trans (htarget given hgiven), fun hnone => ?_, hheld⟩, ?_,
      fun hthere id' hne => ?_⟩
    · intro document e' t₁ hnew
      -- Both ids are the one that is looked for in `t`.
      have hown : outcome (d.save none session.candidate) t = (.ok e, t') := by
        rw [← hnone, hsave, h]
      have hlooked := outcome_newId_of_save hown
      rw [outcome_newId_of_save hnew] at hlooked
      exact (Except.ok.inj (Prod.mk.inj hlooked).1).symm
    · obtain ⟨l, hat, -⟩ := file?_of_save_ok h
      rw [hid]
      exact ⟨l, hat⟩
    · exact answer_fetch_of_save hrooted h hthere (hid ▸ hne)

/-- **What was previewed is what is saved.**  A form is prepared, then anything is done at the desk,
    and then its session is confirmed.  If that succeeds, in memory the candidate is the document of
    the entry that is answered, and in a directory the text of the candidate is its file; and all
    other entries stay as they are found, in a directory if it was there before or its path does not
    go up. -/
theorem saved_confirm_run (d : Directory) (mode : PreviewMode) (form : EntryForm)
    (steps : List DeskStep) :
    (∀ (desk later : Desk Memory) (session : Session) (s s' : Memory) (e : Entry),
      previewOutcome (Memory.store.prepare mode form) desk.state = (.ok session, s) →
      later = desk.run Memory.store (.prepare mode form :: steps) →
      later.confirm? Memory.store desk.sessions.length = some (.ok e, s') →
      session.IsSaved Memory.store later.state e s' ∧ e.document = session.candidate
        ∧ Memory.store.KeepsOthers later.state e s')
    ∧ (∀ (desk later : Desk FileTree) (session : Session) (t t' : FileTree) (e : Entry),
      desk.state.Rooted →
      previewOutcome (d.store.prepare mode form) desk.state = (.ok session, t) →
      later = desk.run d.store (.prepare mode form :: steps) →
      later.confirm? d.store desk.sessions.length = some (.ok e, t') →
      session.IsSaved d.store later.state e t'
        ∧ (∃ l, t'.at? (d.entryPath e.id) = .ok (l, .file session.candidateText.toUTF8))
        ∧ ((∃ dir, later.state.at? d.path = .ok (dir, .directory)) ∨ ".." ∉ d.path →
          d.store.KeepsOthers later.state e t')) := by
  constructor
  · intro desk later session s s' e hprepare hlater hconfirm
    rw [hlater] at hconfirm ⊢
    exact Memory.isSaved_of_save (Desk.save_of_confirm? hprepare hconfirm)
  · intro desk later session t t' e hrooted hprepare hlater hconfirm
    rw [hlater] at hconfirm ⊢
    have htext : session.candidateText.toUTF8 = Directory.written session.candidate := by
      obtain ⟨-, -, hsession, -⟩ := DocumentStore.prepare_eq_ok d.reads hprepare
      rw [hsession]
      rfl
    rw [htext]
    exact Directory.isSaved_of_save (d.stable_rooted.run hrooted _)
      (Desk.save_of_confirm? hprepare hconfirm)

/-- A new entry that is confirmed a second time, behind another one; and a form that takes the place of
    an entry that was saved and deleted in between. -/
theorem saved_confirm_run_sample :
    (∃ (later : Desk Memory) (session : Session) (s' : Memory) (e : Entry),
      later = (⟨Memory.empty, []⟩ : Desk Memory).run Memory.store
        [.prepare (.create none) { title := "One" }, .ask (.save none { body := "a" }), .confirm 0]
      ∧ later.confirm? Memory.store 0 = some (.ok e, s') ∧ e.id = EntryId.first.next.next
      ∧ session.IsSaved Memory.store later.state e s'
      ∧ Memory.store.KeepsOthers later.state e s')
    ∧ ∃ (later : Desk FileTree) (session : Session) (t' : FileTree) (e : Entry),
      FileTree.empty.Rooted
      ∧ later = (⟨FileTree.empty, []⟩ : Desk FileTree).run Directory.sample.store
        [.prepare (.create (some EntryId.first)) { title := "One" },
          .prepare (.create (some EntryId.first)) { title := "Other" }, .confirm 1,
          .ask (.delete EntryId.first)]
      ∧ later.confirm? Directory.sample.store 0 = some (.ok e, t') ∧ e.id = EntryId.first
      ∧ session.IsSaved Directory.sample.store later.state e t'
      ∧ Directory.sample.store.KeepsOthers later.state e t' := by
  have htitle : ({ title := "One" } : EntryForm).isTitleBlank = false := by rfl
  constructor
  · have hprepare : previewOutcome (Memory.store.prepare (.create none) { title := "One" }) Memory.empty
        = (.ok (.prepared (.create none) { title := "One" } none), Memory.empty) :=
      DocumentStore.prepare_eq_ok_iff.mpr ⟨htitle, none, rfl, rfl⟩
    obtain ⟨s', hconfirm⟩ : ∃ s', ((⟨Memory.empty, []⟩ : Desk Memory).run Memory.store
        [.prepare (.create none) { title := "One" }, .ask (.save none { body := "a" }),
          .confirm 0]).confirm? Memory.store 0 = some (.ok ⟨EntryId.first.next.next,
            ({ title := "One" } : EntryForm).document (.create none) none⟩, s') := ⟨_, rfl⟩
    obtain ⟨hsaved, -, hothers⟩ := (saved_confirm_run Directory.sample _ _ _).1
      ⟨Memory.empty, []⟩ _ _ _ _ _ hprepare rfl hconfirm
    exact ⟨_, _, _, _, rfl, hconfirm, rfl, hsaved, hothers⟩
  · have hprepare : previewOutcome (Directory.sample.store.prepare (.create (some EntryId.first))
        { title := "One" }) FileTree.empty
        = (.ok (.prepared (.create (some EntryId.first)) { title := "One" } none), FileTree.empty) :=
      DocumentStore.prepare_eq_ok_iff.mpr ⟨htitle, none, by rfl, rfl⟩
    obtain ⟨t', hconfirm⟩ : ∃ t', ((⟨FileTree.empty, []⟩ : Desk FileTree).run Directory.sample.store
        [.prepare (.create (some EntryId.first)) { title := "One" },
          .prepare (.create (some EntryId.first)) { title := "Other" }, .confirm 1,
          .ask (.delete EntryId.first)]).confirm? Directory.sample.store 0
        = some (.ok ⟨EntryId.first, (({ title := "One" } : EntryForm).document
          (.create (some EntryId.first)) none).recoded⟩, t') := ⟨_, by rfl⟩
    obtain ⟨hsaved, -, hothers⟩ := (saved_confirm_run Directory.sample _ _ _).2
      ⟨FileTree.empty, []⟩ _ _ _ _ _ FileTree.rooted_empty hprepare rfl hconfirm
    exact ⟨_, _, _, _, FileTree.rooted_empty, rfl, hconfirm, rfl, hsaved, hothers (.inr (by decide))⟩

/-- To save a first entry there makes the directory that was missing, and then the second one is
    found, which was not found before. -/
theorem not_keepsOthers_upward : ∃ (session : Session) (t' : FileTree) (e : Entry),
    FileTree.upward.Rooted
    ∧ previewOutcome (Directory.upward.store.prepare (.create (some EntryId.first)) { title := "One" })
      FileTree.upward = (.ok session, FileTree.upward)
    ∧ previewOutcome (Directory.upward.store.confirm session) FileTree.upward = (.ok e, t')
    ∧ ¬ Directory.upward.store.KeepsOthers FileTree.upward e t' := by
  have hprepare : previewOutcome (Directory.upward.store.prepare (.create (some EntryId.first))
      { title := "One" }) FileTree.upward
      = (.ok (.prepared (.create (some EntryId.first)) { title := "One" } none), FileTree.upward) :=
    DocumentStore.prepare_eq_ok_iff.mpr ⟨by rfl, none, by rfl, rfl⟩
  have hconfirm : previewOutcome (Directory.upward.store.confirm
      (.prepared (.create (some EntryId.first)) { title := "One" } none)) FileTree.upward
      = (.ok ⟨EntryId.first, _⟩, _) := DocumentStore.confirm_eq_ok_iff.mpr (by rfl)
  refine ⟨_, _, _, FileTree.rooted_upward, hprepare, hconfirm, fun hothers => ?_⟩
  have hsecond := hothers EntryId.first.next (by decide)
  have hbefore : (outcome (Directory.upward.store.fetch EntryId.first.next) FileTree.upward).1
      = .ok none := by rfl
  rw [hbefore] at hsecond
  cases hsecond

end Redline
