/-
  Reports of no change — when it is said that two texts do not differ.

  An alignment, a session and a request that compares two files each say whether there is a change.
  They say so exactly when the two texts differ:

  1. **Alignments** — an alignment without a change has the same lines on either side, and a text that
     is aligned with itself has none (`Diff.isIdentical_compareTexts_iff`).
  2. **Sessions** — what is asked of a session is asked of its alignment.
  3. **Reports** — the sentence `No changes.` could also come about as the rows of an alignment with
     changes and the line that counts them.  It does not: that line has a plus sign, in every colour
     (`Report.differences_ne`).
  4. **Requests** — a request that compares two files in text mode does not fail when they can be
     read, and ends in a report of their texts (`Compares.outcome_run`).
-/
import Redline.Proofs.Console.Effects
import Redline.Proofs.Render.Style

namespace Redline.Console

variable {t : FileTree}

/-! ## Reports -/

theorem mem_withNewline {c : Char} {s : String} (h : c ∈ s.toList) :
    c ∈ (withNewline s).toList := by
  rw [withNewline]
  split
  · exact h
  · rw [String.toList_append]
    exact List.mem_append_left _ h

/-- Where nothing differs, the context is not looked at. -/
theorem Report.differences_of_identical (p : Render.Painter) {a : Diff.Alignment}
    (context : Option Nat) (h : a.isIdentical = true) :
    (Output.ofText? (differences p a context)).map withNewline = .printed "No changes.\n" := by
  rw [differences, if_pos h]
  decide

/-- A report of changes is not taken for one of none, however it is coloured and cut, and whether or
    not the context can be counted. -/
theorem Report.differences_ne (p : Render.Painter) {a : Diff.Alignment} (context : Option Nat)
    (h : a.isIdentical = false) :
    (Output.ofText? (differences p a context)).map withNewline ≠ .printed "No changes.\n" := by
  rw [differences, h, if_neg Bool.false_ne_true]
  cases rows p a context with
  | none => exact Output.noConfusion
  | some shown =>
    intro hprinted
    have hplus : '+' ∈ (shown ++ p.summary a).toList := by
      rw [String.toList_append]
      exact List.mem_append_right _ (p.plus_mem_summary a)
    have hmem := mem_withNewline hplus
    rw [Output.printed.inj hprinted] at hmem
    exact absurd hmem (by decide)

/-- Where something differs, there is a hunk to print, or the run has stopped. -/
theorem Report.differences_eq_iff (p : Render.Painter) (a : Diff.Alignment) (context : Option Nat) :
    (Output.ofText? (differences p a context)).map withNewline = .printed "No changes.\n"
      ↔ a.isIdentical = true := by
  constructor
  · intro h
    exact Bool.of_not_eq_false fun hchanged => differences_ne p context hchanged h
  · exact differences_of_identical p context

/-! ## Requests -/

/-- A text file is read as its text. -/
theorem commandOutcome_readFile {path text : String}
    (h : t.read (FilePath.ofText path) = .ok text.toUTF8) :
    commandOutcome (readFile path) t = (.ok text, t) := by
  have hread : FileAccess.readText (m := StateM FileTree) (FilePath.ofText path) t
      = (.ok (some text), t) := by
    rw [Directory.readText_run, h]
    exact congrArg (fun text? => (Except.ok text?, t)) (Directory.fromUTF8?_toUTF8 text)
  simp only [commandOutcome, readFile, ExceptT.run, ExceptT.mk, StateT.run, bind, StateT.bind, hread]
  rfl

/-- A request compares, in text mode, two files with the texts `old` and `new`. -/
structure Request.Compares (r : Request) (t : FileTree) (old new : String) : Prop where
  format : r.format = .text
  resolved : ∃ settings : Settings,
    (Settings.resolve (m := StateM FileTree) r.config).run t = (.ok settings, t)
  command : ∃ oldFile newFile context, r.command = .diff oldFile newFile context
    ∧ t.read (FilePath.ofText oldFile) = .ok old.toUTF8
    ∧ t.read (FilePath.ofText newFile) = .ok new.toUTF8

/-- **A request that compares two files** ends in a report of their texts. -/
theorem Request.Compares.outcome_run {r : Request} {old new : String} (h : r.Compares t old new)
    (hasTerminal : Bool) : ∃ painter context, commandOutcome (r.run hasTerminal) t
      = (.ok ((Output.ofText? (Report.differences painter (Diff.compareTexts old new) context)).map
          withNewline), t) := by
  obtain ⟨settings, hresolved⟩ := h.resolved
  obtain ⟨oldFile, newFile, context, hcommand, hold, hnew⟩ := h.command
  have hdiff : commandOutcome ((r.setup hasTerminal settings).diff oldFile newFile context) t
      = (.ok (.ofText? (Report.differences (r.setup hasTerminal settings).painter
        (Diff.compareTexts old new) ((r.setup hasTerminal settings).context context))), t) := by
    rw [Setup.diff, commandOutcome_bind_of_ok (commandOutcome_readFile hold),
      commandOutcome_bind_of_ok (commandOutcome_readFile hnew)]
    show (Except.ok (Setup.shown _ _ _), t) = _
    rw [Setup.shown, show (r.setup hasTerminal settings).format = .text from h.format]
  rw [Request.outcome_run hasTerminal hresolved, hcommand, Setup.run, hdiff]
  exact ⟨_, _, rfl⟩

/-- **No change is reported exactly when there is none**: by the alignment of two texts, by every
    session that was prepared, and by a request that compares two files. -/
theorem reports_no_changes_iff :
    (∀ old new : String, (Diff.compareTexts old new).isIdentical = true ↔ old = new)
    ∧ (∀ {σ : Type} (store : DocumentStore (StateM σ)) (mode : PreviewMode) (form : EntryForm)
      (session : Session) (st st' : σ),
      previewOutcome (store.prepare mode form) st = (.ok session, st') →
      (session.hasChanges = false ↔ session.storedText = session.candidateText))
    ∧ ∀ (hasTerminal : Bool) (r : Request) (t : FileTree) (old new : String), r.Compares t old new →
      ∃ output, commandOutcome (r.run hasTerminal) t = (.ok output, t)
        ∧ (output = .printed "No changes.\n" ↔ old = new) := by
  refine ⟨Diff.isIdentical_compareTexts_iff, ?_, ?_⟩
  · intro σ store mode form session st st' hprepare
    obtain ⟨-, stored, -, rfl⟩ := DocumentStore.prepare_eq_ok_iff.mp hprepare
    exact Session.hasChanges_prepared_eq_false_iff
  · intro hasTerminal r t old new hcompares
    obtain ⟨painter, context, hrun⟩ := hcompares.outcome_run hasTerminal
    exact ⟨_, hrun, (Report.differences_eq_iff painter _ context).trans
      (Diff.isIdentical_compareTexts_iff old new)⟩

/-- Two files that differ in their last line feed. -/
def sampleFiles : FileTree :=
  (FileTree.empty.putFile [FileName.ofText "a"] "x".toUTF8).putFile [FileName.ofText "b"]
    "x\n".toUTF8

/-- A comparison of two files. -/
def sampleComparison (oldFile newFile : String) : Request where
  format := .text
  config := none
  noColor := false
  command := .diff oldFile newFile none

/-- A line feed more is a change, and a file does not differ from itself; nor is there no change in
    a session for a first entry. -/
theorem reports_no_changes_iff_newline :
    (∃ session, previewOutcome (Memory.store.prepare (.create none) { title := "One" })
        Memory.empty = (.ok session, Memory.empty) ∧ session.hasChanges ≠ false)
    ∧ (∃ output, commandOutcome ((sampleComparison "a" "b").run true) sampleFiles
        = (.ok output, sampleFiles) ∧ output ≠ .printed "No changes.\n")
    ∧ commandOutcome ((sampleComparison "a" "a").run true) sampleFiles
      = (.ok (.printed "No changes.\n"), sampleFiles) := by
  have hfirst : sampleFiles.read (FilePath.ofText "a") = .ok "x".toUTF8 := by rfl
  have hsecond : sampleFiles.read (FilePath.ofText "b") = .ok "x\n".toUTF8 := by rfl
  refine ⟨?_, ?_, ?_⟩
  · have hprepare := DocumentStore.prepare_eq_ok_iff.mpr
      ⟨(by rfl : ({ title := "One" } : EntryForm).isTitleBlank = false), none,
        (by rfl : previewOutcome (Memory.store.storedEntry (.create none)) Memory.empty
          = (.ok none, Memory.empty)), rfl⟩
    refine ⟨_, hprepare, fun hsame => ?_⟩
    have htexts := (reports_no_changes_iff.2.1 _ _ _ _ _ _ hprepare).mp hsame
    exact FrontMatter.encodeDocument_ne_empty _ htexts.symm
  · obtain ⟨output, hrun, hiff⟩ := reports_no_changes_iff.2.2 true (sampleComparison "a" "b") _ _ _
      ⟨rfl, ⟨_, rfl⟩, "a", "b", none, rfl, hfirst, hsecond⟩
    exact ⟨output, hrun, fun hprinted => absurd (hiff.mp hprinted) (by decide)⟩
  · obtain ⟨output, hrun, hiff⟩ := reports_no_changes_iff.2.2 true (sampleComparison "a" "a") _ _ _
      ⟨rfl, ⟨_, rfl⟩, "a", "a", none, rfl, hfirst, hfirst⟩
    rw [hrun, hiff.mpr rfl]

end Redline.Console
