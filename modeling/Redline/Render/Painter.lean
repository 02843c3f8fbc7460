/-
  Alignments in print.

  A row shows one line: its number, right-aligned in four characters, its marker, its content; a
  placeholder stands for an empty content.  `rows` shows every line, `hunks` only the changed
  places, each under its header, and `summary` counts the changes.  `hunks?` counts the context in
  64 bits.

  With colour, numbers and placeholders are dimmed, added rows green, deleted rows red, headers
  cyan and headings bold.
-/
import Redline.Diff.Hunk
import Redline.Render.Style
import Redline.Text.Numeral

namespace Redline.Render

open Diff (ChangeKind DiffLine Hunk)

/-- How alignments are shown. -/
structure Painter where
  color : Bool
  placeholder : String
deriving DecidableEq, Repr

namespace Painter

/-- `cs` in a style, if there is colour. -/
def paint (p : Painter) (style : Style) (cs : List Char) : List Char :=
  if p.color then styled style cs else cs

/-- A row of the kind `k` in its colour. -/
def paintKind (p : Painter) (k : ChangeKind) (cs : List Char) : List Char :=
  match k with
  | .unchanged => cs
  | .added => p.paint .green cs
  | .deleted => p.paint .red cs

/-- What is shown of a content. -/
def contentChars (p : Painter) (content : String) : List Char :=
  if content = "" then p.paint .dimmed p.placeholder.toList else content.toList

/-- The row of a line, with its line feed. -/
def rowChars (p : Painter) (l : DiffLine) : List Char :=
  p.paint .dimmed (Text.padLeft 4 (Text.decimal l.gutter)) ++ [' ']
    ++ p.paintKind l.kind (l.kind.marker :: ' ' :: p.contentChars l.content) ++ ['\n']

/-- The rows of the lines `ls`. -/
def rowsChars (p : Painter) (ls : List DiffLine) : List Char :=
  ls.flatMap p.rowChars

/-- The rows of a hunk under its header. -/
def hunkChars (p : Painter) (h : Hunk) : List Char :=
  p.paint .cyan h.header.toList ++ ['\n'] ++ p.rowsChars h.lines

/-- Every line of an alignment. -/
def rows (p : Painter) (a : Diff.Alignment) : String :=
  String.ofList (p.rowsChars a.lines)

/-- The changed places of an alignment, with `context` lines around each change. -/
def hunks (p : Painter) (a : Diff.Alignment) (context : Nat) : String :=
  String.ofList ((a.hunks context).flatMap p.hunkChars)

/-- The changed places of an alignment, if the context can be counted. -/
def hunks? (p : Painter) (a : Diff.Alignment) (context : Nat) : Option String :=
  (a.hunks? context).map fun hunks => String.ofList (hunks.flatMap p.hunkChars)

/-- How many lines are added and deleted. -/
def summary (p : Painter) (a : Diff.Alignment) : String :=
  String.ofList (p.paint .green ('+' :: Text.decimal a.additions) ++ [' ']
    ++ p.paint .red ('-' :: Text.decimal a.deletions))

/-- A heading. -/
def heading (p : Painter) (text : String) : String :=
  String.ofList (p.paint .bold text.toList)

end Painter

end Redline.Render
