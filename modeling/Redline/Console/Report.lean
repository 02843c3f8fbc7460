/-
  What the commands print as text.

  Each report is made of lines; a count follows the lists, behind an empty line, and an empty list
  has a sentence of its own.  There is no report of differences with a context that cannot be
  counted in 64 bits, unless there are no differences.
-/
import Redline.FrontMatter.Fields
import Redline.Preview.Session
import Redline.Render.Painter
import Redline.Store.Catalog

namespace Redline.Console.Report

/-! ## Documents -/

/-- The line of a field that is there: its name, in ten characters, and its value. -/
def field (name : String) (value : Option String) : String :=
  match value with
  | none => ""
  | some value => Text.alignLeft 10 (name ++ ":") ++ value ++ "\n"

/-- The fields of a header and the body behind them. -/
def decoded (d : FrontMatter.Decoded) : String :=
  let f := d.fields
  let header := field "title" f.title ++ field "summary" f.summary
    ++ field "category" (f.categories.map fun cs => " > ".intercalate (cs.map Category.name))
    ++ field "tags" (f.tags.map fun ts => ", ".intercalate (ts.map Tag.name))
    ++ field "date" f.date ++ field "updated" f.updated
  (if header = "" then "" else header ++ "\n") ++ d.body

/-! ## Differences -/

/-- The rows of an alignment, whole or with some lines of context. -/
def rows (p : Render.Painter) (a : Diff.Alignment) (context : Option Nat) : Option String :=
  match context with
  | none => some (p.rows a)
  | some context => p.hunks? a context

/-- The differences between two files. -/
def differences (p : Render.Painter) (a : Diff.Alignment) (context : Option Nat) : Option String :=
  if a.isIdentical then some "No changes."
  else do
    let shown ← rows p a context
    return shown ++ p.summary a

/-- The changes of a session, and what became of them. -/
def changes (p : Render.Painter) (s : Session) (context : Option Nat) (saved : Option Entry) :
    Option String :=
  if !s.hasChanges then some "No changes.\n"
  else do
    let shown ← rows p s.alignment context
    return shown ++ p.summary s.alignment ++ "\n"
      ++ match saved with
        | some e => "Saved entry " ++ e.id.text ++ "\n"
        | none => "Run again with --yes to save.\n"

/-- A session, and the entry that was saved if one was. -/
def session (p : Render.Painter) (s : Session) (context : Option Nat) (saved : Option Entry) :
    Option String :=
  (changes p s context saved).map fun changes => p.heading s.title ++ "\n\n" ++ changes

/-! ## Lists -/

/-- The line of an entry. -/
def entryLine (e : Entry) : String :=
  let m := e.document.metadata
  Text.alignRight 4 e.id.text ++ "  " ++ m.title ++ "  [" ++ m.categoryPath ++ "]  "
    ++ ", ".intercalate m.tagNames ++ "\n"

/-- The entries of a store. -/
def entries (es : List Entry) : String :=
  if es = [] then "No entries found."
  else String.join (es.map entryLine) ++ "\n" ++ Text.decimalText es.length ++ " entries\n"

/-- The width of the column of names: the size in bytes of the longest one. -/
def nameWidth (ts : List TagCount) : Nat :=
  (ts.map fun t => t.name.utf8ByteSize).foldl max 0

/-- The tags of a store. -/
def tags (ts : List TagCount) : String :=
  let line (t : TagCount) : String :=
    Text.alignLeft (nameWidth ts) t.name ++ "  " ++ Text.decimalText t.count ++ "\n"
  if ts = [] then "No tags found."
  else String.join (ts.map line) ++ "\nTotal: " ++ Text.decimalText ts.length
    ++ " unique tags, " ++ Text.decimalText ((ts.map TagCount.count).foldr Nat.add 0)
    ++ " total usage\n"

/-- The category paths of a store. -/
def categories (paths : List (List Category)) : String :=
  let line (path : List Category) : String :=
    "  " ++ " > ".intercalate (path.map Category.name) ++ "\n"
  if paths = [] then "No categories found."
  else String.join (paths.map line) ++ "\nTotal: " ++ Text.decimalText paths.length
    ++ " category paths\n"

end Redline.Console.Report
