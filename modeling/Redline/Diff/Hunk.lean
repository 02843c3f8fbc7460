/-
  Hunks — the changed places of an alignment with some context.

  With a context of `c` lines, a hunk shows each change together with up to `c` unchanged lines on
  either side, and changes that are at most `2 * c` unchanged lines apart share a hunk.  On the
  runs of the alignment this is three cuts:

  1. an unchanged run at the start keeps its last `c` lines, one at the end its first `c`;
  2. every unchanged run longer than `2 * c` is cut into its first and its last `c` lines, and a
     new group starts between them;
  3. a last group that is a single unchanged run is dropped.

  A hunk is numbered from one, by the ranges of its runs; with `c = 0` the runs of length zero that
  the cuts leave behind carry the starts.

  A context is a 64-bit number, and so has to be twice a context.  `hunks` counts without a limit;
  `hunks?` is the same with that limit, and has no hunks where it is passed.
-/
import Redline.Diff.Run
import Redline.Text.Numeral

namespace Redline.Diff

/-! ## Groups of runs -/

/-- The first `c` lines of a run, for an unchanged run. -/
def Run.takeFirst (c : Nat) (r : Run) : Run :=
  { r with length := min c r.length }

/-- The last `c` lines of a run, for an unchanged run. -/
def Run.takeLast (c : Nat) (r : Run) : Run :=
  let skipped := r.length - c
  { r with
    oldStart := r.oldStart + skipped
    newStart := r.newStart + skipped
    length := r.length - skipped }

/-- `rs` with at most the last `c` lines of an unchanged first run. -/
def trimFirst (c : Nat) : List Run → List Run
  | [] => []
  | r :: rs => (if r.kind = .unchanged then r.takeLast c else r) :: rs

/-- `rs` with at most the first `c` lines of an unchanged last run. -/
def trimLast (c : Nat) : List Run → List Run
  | [] => []
  | [r] => [if r.kind = .unchanged then r.takeFirst c else r]
  | r :: rs => r :: trimLast c rs

/-- Whether a group holds a change. -/
def isShown : List Run → Bool
  | [] => false
  | [r] => r.kind ≠ .unchanged
  | _ => true

/-- The groups of the runs that follow, where `group` holds the runs of the group that is open, the
    last run first. -/
def cutRuns (c : Nat) (group : List Run) : List Run → List (List Run)
  | [] => if isShown group then [group.reverse] else []
  | r :: rs =>
    if r.kind = .unchanged ∧ 2 * c < r.length then
      (r.takeFirst c :: group).reverse :: cutRuns c [r.takeLast c] rs
    else cutRuns c (r :: group) rs

/-- The groups of the runs `rs` with `c` lines of context. -/
def groupRuns (c : Nat) (rs : List Run) : List (List Run) :=
  cutRuns c [] (trimLast c (trimFirst c rs))

/-- Twice `c`, if that is a 64-bit number. -/
def double? (c : Nat) : Option Nat :=
  if 2 * c ≤ Text.maxCount then some (2 * c) else none

/-- The groups of `cutRuns`, counted in 64 bits: every unchanged run asks for twice the context. -/
def cutRuns? (c : Nat) (group : List Run) : List Run → Option (List (List Run))
  | [] => some (if isShown group then [group.reverse] else [])
  | r :: rs =>
    if r.kind = .unchanged then do
      let twice ← double? c
      if twice < r.length then
        let groups ← cutRuns? c [r.takeLast c] rs
        return (r.takeFirst c :: group).reverse :: groups
      else cutRuns? c (r :: group) rs
    else cutRuns? c (r :: group) rs

/-- The groups of `groupRuns`, counted in 64 bits. -/
def groupRuns? (c : Nat) (rs : List Run) : Option (List (List Run)) :=
  cutRuns? c [] (trimLast c (trimFirst c rs))

/-! ## Hunks -/

/-- A changed place: its lines, and the ranges that they cover, counted from one. -/
structure Hunk where
  oldStart : Nat
  oldCount : Nat
  newStart : Nat
  newCount : Nat
  lines : List DiffLine
deriving DecidableEq, Repr

/-- The line above a hunk. -/
def Hunk.header (h : Hunk) : String :=
  "@@ -" ++ toString h.oldStart ++ "," ++ toString h.oldCount
    ++ " +" ++ toString h.newStart ++ "," ++ toString h.newCount ++ " @@"

/-- The hunk of a group of runs, none for the empty group. -/
def Hunk.ofGroup? (a : Alignment) (index : SideIndex) (group : List Run) : Option Hunk :=
  let lines := a.lines.toArray
  match group with
  | [] => none
  | first :: _ => some {
      oldStart := first.oldStart + 1
      oldCount := (group.map Run.oldLength).foldr Nat.add 0
      newStart := first.newStart + 1
      newCount := (group.map Run.newLength).foldr Nat.add 0
      lines := (group.flatMap (·.positions index)).filterMap (lines[·]?) }

/-- The hunks of `a` with `context` lines around each change. -/
def Alignment.hunks (a : Alignment) (context : Nat) : List Hunk :=
  (groupRuns context a.runs).filterMap (Hunk.ofGroup? a a.sideIndex)

/-- The hunks of `a`, counted in 64 bits. -/
def Alignment.hunks? (a : Alignment) (context : Nat) : Option (List Hunk) :=
  (groupRuns? context a.runs).map fun groups => groups.filterMap (Hunk.ofGroup? a a.sideIndex)

end Redline.Diff
