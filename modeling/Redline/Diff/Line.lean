/-
  Alignments — two texts laid side by side, line by line.

  An alignment is a list of lines.  A line is unchanged, and then it stands in both texts, or it is
  deleted and stands in the old text only, or added and stands in the new text only; it carries its
  number in each text in which it stands.  Nothing here relies on those numbers: an alignment made
  by hand may carry any.

  The two sides are read off the kinds: `oldText` joins the lines that are not added, `newText`
  those that are not deleted.
-/
import Redline.Text.Pieces

namespace Redline.Diff

/-- What happened to a line. -/
inductive ChangeKind where
  | unchanged
  | added
  | deleted
deriving DecidableEq, Repr

/-- The character that stands for `k` in front of a line. -/
def ChangeKind.marker : ChangeKind → Char
  | .unchanged => ' '
  | .added => '+'
  | .deleted => '-'

/-- Whether a line of the kind `k` stands in the old text. -/
def ChangeKind.inOld (k : ChangeKind) : Bool :=
  k ≠ .added

/-- Whether a line of the kind `k` stands in the new text. -/
def ChangeKind.inNew (k : ChangeKind) : Bool :=
  k ≠ .deleted

/-- One line of an alignment. -/
structure DiffLine where
  kind : ChangeKind
  content : String
  oldLine : Option Nat
  newLine : Option Nat
deriving DecidableEq, Repr

/-- The number shown beside a line: that of the new text for an added line, that of the old
    text for every other, and zero where it is missing. -/
def DiffLine.gutter (l : DiffLine) : Nat :=
  match l.kind with
  | .added => l.newLine.getD 0
  | .unchanged | .deleted => l.oldLine.getD 0

/-- The lines of two texts, laid side by side. -/
structure Alignment where
  lines : List DiffLine
deriving DecidableEq, Repr

namespace Alignment

/-- The kinds of the lines, in order. -/
def kinds (a : Alignment) : List ChangeKind :=
  a.lines.map DiffLine.kind

/-- How many lines there are in all. -/
def length (a : Alignment) : Nat :=
  a.lines.length

/-- Whether there is no line. -/
def isEmpty (a : Alignment) : Bool :=
  a.lines.isEmpty

/-- How many lines are added. -/
def additions (a : Alignment) : Nat :=
  a.kinds.count .added

/-- How many lines are deleted. -/
def deletions (a : Alignment) : Nat :=
  a.kinds.count .deleted

/-- How many lines are unchanged. -/
def unchanged (a : Alignment) : Nat :=
  a.kinds.count .unchanged

/-- Whether every line is unchanged. -/
def isIdentical (a : Alignment) : Bool :=
  a.kinds.all (· = .unchanged)

/-- The lines of the old text. -/
def oldLines (a : Alignment) : List String :=
  (a.lines.filter fun l => l.kind.inOld).map DiffLine.content

/-- The lines of the new text. -/
def newLines (a : Alignment) : List String :=
  (a.lines.filter fun l => l.kind.inNew).map DiffLine.content

/-- The old text. -/
def oldText (a : Alignment) : String :=
  Text.unlines a.oldLines

/-- The new text. -/
def newText (a : Alignment) : String :=
  Text.unlines a.newLines

end Alignment

end Redline.Diff
