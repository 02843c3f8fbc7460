/-
  Runs — an alignment as a list of operations.

  A run is a stretch of neighbouring lines of one kind; the runs of an alignment are as long as
  they can be, so neighbours differ in kind.  A run covers a range of the old text and a range
  of the new text, counted from zero and given by start and length; for an added run the first
  is empty, for a deleted run the second.

  `SideIndex` leads back: it holds, for each side, the positions in the alignment of the lines that
  stand on it, and `Run.positions` picks those of a run.
-/
import Redline.Diff.Line

namespace Redline.Diff

/-- Neighbouring lines of one kind. -/
structure Run where
  kind : ChangeKind
  oldStart : Nat
  newStart : Nat
  length : Nat
deriving DecidableEq, Repr

namespace Run

/-- How many lines of the old text the run covers. -/
def oldLength (r : Run) : Nat :=
  if r.kind.inOld then r.length else 0

/-- How many lines of the new text the run covers. -/
def newLength (r : Run) : Nat :=
  if r.kind.inNew then r.length else 0

/-- The end of the range in the old text. -/
def oldEnd (r : Run) : Nat :=
  r.oldStart + r.oldLength

/-- The end of the range in the new text. -/
def newEnd (r : Run) : Nat :=
  r.newStart + r.newLength

end Run

/-- The kinds `ks` with equal neighbours counted together. -/
def runLengths (ks : List ChangeKind) : List (ChangeKind × Nat) :=
  ks.foldr
    (fun k rs => match rs with
      | [] => [(k, 1)]
      | (k', n) :: rest => if k = k' then (k', n + 1) :: rest else (k, 1) :: rs)
    []

/-- Runs of the given kinds and lengths, one after the other, from the given places on. -/
def placeRuns (oldStart newStart : Nat) : List (ChangeKind × Nat) → List Run
  | [] => []
  | (k, n) :: rest =>
    let r : Run := ⟨k, oldStart, newStart, n⟩
    r :: placeRuns r.oldEnd r.newEnd rest

/-- The runs of an alignment. -/
def Alignment.runs (a : Alignment) : List Run :=
  placeRuns 0 0 (runLengths a.kinds)

/-- For each side, where its lines stand in the alignment. -/
structure SideIndex where
  old : Array Nat
  new : Array Nat

/-- The positions at which `keep` holds of the kind. -/
def positionsOf (keep : ChangeKind → Bool) (ks : List ChangeKind) : List Nat :=
  (ks.zipIdx.filter fun (k, _) => keep k).map Prod.snd

/-- The index of the two sides of an alignment. -/
def Alignment.sideIndex (a : Alignment) : SideIndex where
  old := (positionsOf ChangeKind.inOld a.kinds).toArray
  new := (positionsOf ChangeKind.inNew a.kinds).toArray

/-- The positions that a run covers: an added run is looked up among the new lines, every
    other among the old ones. -/
def Run.positions (r : Run) (index : SideIndex) : List Nat :=
  match r.kind with
  | .added => (index.new.extract r.newStart r.newEnd).toList
  | .unchanged | .deleted => (index.old.extract r.oldStart r.oldEnd).toList

end Redline.Diff
