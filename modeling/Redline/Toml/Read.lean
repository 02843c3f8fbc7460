/-
  Reading TOML documents.

  A document is a list of lines: pairs, headers, and lines without either.  The pairs above the
  first header belong to the document itself, all others to the header above them.  A document is
  refused as a whole when a line cannot be read or a name is given twice.
-/
import Redline.Toml.Moment
import Redline.Toml.Number
import Redline.Toml.Table
import Redline.Toml.Text

namespace Redline.Toml

open Scanner

/-! ## Values -/

/-- A value without parts. -/
def scalar : Scanner Toml :=
  (Toml.text <$> anyText)
    <|> (Toml.moment <$> Scanner.moment)
    <|> (Toml.float <$> Scanner.float)
    <|> (Toml.integer <$> Scanner.integer)
    <|> (do word "true".toList; return .boolean true)
    <|> (do word "false".toList; return .boolean false)

/-- An array of what `item` reads; a comma may follow the last item. -/
def arrayOf (item : Scanner Toml) : Scanner Toml := do
  char '['
  let items ← option (separated (char ',') (do gap; let v ← item; gap; return v))
  if items.isSome then let _ ← option (char ',')
  gap
  char ']'
  return .array (items.getD [])

/-- A key and, behind `=`, what `item` reads. -/
def pairOf (item : Scanner Toml) : Scanner (List String × Toml) := do
  let path ← key
  char '='
  spaces
  return (path, ← item)

/-- A table between braces whose values `item` reads. -/
def inlineTableOf (item : Scanner Toml) : Scanner Toml := do
  char '\x7b'
  let pairs ← option (separated (char ',') (do let pair ← pairOf item; spaces; return pair))
  spaces
  char '\x7d'
  match Members.putPairs? [] (pairs.getD []) with
  | some members => return .table .inline members
  | none => failure

/-- The most arrays and tables between braces that may stand inside each other. -/
def maxNesting : Nat := 79

/-- A value with at most the given number of arrays and tables inside each other. -/
def value : Nat → Scanner Toml
  | 0 => scalar
  | nesting + 1 => scalar <|> arrayOf (value nesting) <|> inlineTableOf (value nesting)

/-! ## Documents -/

/-- What a line says. -/
inductive Line where
  | blank
  | pair (path : List String) (v : Toml)
  | header (h : Header)

/-- A line without a pair or a header. -/
def blankLine : Scanner Line := do
  newline <|> (do comment; lineEnd)
  return .blank

/-- The header of an element of an array of tables. -/
def elementLine : Scanner Line := do
  word ['[', '[']
  let path ← key
  word [']', ']']
  trailing
  return .header (.element path)

/-- The header of a table. -/
def tableLine : Scanner Line := do
  char '['
  let path ← key
  char ']'
  trailing
  return .header (.table path)

/-- A pair on a line. -/
def pairLine : Scanner Line := do
  let (path, v) ← pairOf (value maxNesting)
  trailing
  return .pair path v

/-- The lines of a document. -/
def documentLines : Scanner (List Line) := do
  let _ ← option (char '\uFEFF')
  spaces
  let ls ← many (do
    let l ← blankLine <|> elementLine <|> tableLine <|> pairLine
    spaces
    return l)
  atEnd
  return ls

/-- The pairs above the first header, and the sections. -/
def sections (ls : List Line) : List (List String × Toml) × List Section :=
  ls.foldr
    (fun l (pairs, rest) => match l with
      | .blank => (pairs, rest)
      | .pair path v => ((path, v) :: pairs, rest)
      | .header h => ([], ⟨h, pairs⟩ :: rest))
    ([], [])

/-- The members of the document that `s` writes. -/
def read? (s : String) : Option Members := do
  let (ls, _) ← documentLines.run s.toList
  let (pairs, rest) := sections ls
  rest.foldlM Members.putSection? (← Members.putPairs? [] pairs)

end Redline.Toml
