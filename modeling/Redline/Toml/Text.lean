/-
  TOML strings and keys.

  1. **Basic strings** stand between double quotes and have escapes; **literal strings** stand
     between single quotes and have none.
  2. **Over several lines** — with three quotes on each side a string may hold ends of lines, which
     all become line feeds; one right at the start is dropped, and in a basic string a backslash at
     the end of a line removes it and the space behind it.  One or two quotes may stand anywhere,
     also right before the three that close the string.
  3. **Keys** are words of ASCII letters, digits, `-` and `_`, or strings on one line; a dotted key
     has several of them.
-/
import Redline.Text.Hexadecimal
import Redline.Toml.Scanner

namespace Redline.Toml.Scanner

/-! ## Strings -/

/-- Whether `c` stands for itself in a basic string. -/
def isBasicChar (c : Char) : Bool :=
  isShown c && c ≠ '"' && c ≠ '\\'

/-- Whether `c` stands for itself in a literal string. -/
def isLiteralChar (c : Char) : Bool :=
  isShown c && c ≠ '\x27'

/-- Whether `c` is a hexadecimal digit. -/
def isHexDigit (c : Char) : Bool :=
  (Text.hexValue? c).isSome

/-- The character whose code point is written in `count` hexadecimal digits. -/
def codePoint (count : Nat) : Scanner Char := do
  let ds ← List.replicate count () |>.mapM fun _ => accept isHexDigit
  match Text.hexNumber? ds with
  | none => failure
  | some n => if n.isValidChar then return Char.ofNat n else failure

/-- The character that is written behind a backslash. -/
def escape : Scanner Char := do
  char '\\'
  match ← accept fun _ => true with
  | 'b' => return '\x08'
  | 't' => return '\t'
  | 'n' => return '\n'
  | 'f' => return '\x0c'
  | 'r' => return '\r'
  | '"' => return '"'
  | '\\' => return '\\'
  | 'u' => codePoint 4
  | 'U' => codePoint 8
  | _ => failure

/-- A stretch of a basic string. -/
def basicPiece : Scanner (List Char) :=
  span1 isBasicChar <|> (return [← escape])

/-- A basic string on one line. -/
def basicText : Scanner String := do
  char '"'
  let ps ← many basicPiece
  char '"'
  return String.ofList ps.flatten

/-- A literal string on one line. -/
def literalText : Scanner String := do
  char '\x27'
  let cs ← span isLiteralChar
  char '\x27'
  return String.ofList cs

/-- An end of a line inside a string. -/
def newlinePiece : Scanner (List Char) := do
  newline
  return ['\n']

/-- One or two quotes inside a string over several lines. -/
def quotesPiece (quote : Char) : Scanner (List Char) := do
  let run ← span1 (· = quote)
  if run.length ≤ 2 then return run else failure

/-- A backslash at the end of a line, with all space behind it. -/
def joinedLines : Scanner (List Char) := do
  char '\\'
  spaces
  newline
  let _ ← many (newline <|> (do let _ ← span1 isSpace))
  return []

/-- The quotes that close a string over several lines; what comes before the last three of them is
    part of the string. -/
def closingQuotes (quote : Char) : Scanner (List Char) := do
  let run ← span (· = quote)
  if 3 ≤ run.length ∧ run.length ≤ 5 then return run.drop 3 else failure

/-- A string over several lines that is made of the given pieces. -/
def longText (quote : Char) (piece : Scanner (List Char)) : Scanner String := do
  word [quote, quote, quote]
  let _ ← option newline
  let ps ← many (piece <|> newlinePiece <|> quotesPiece quote)
  let last ← closingQuotes quote
  return String.ofList (ps.flatten ++ last)

/-- A string of any of the four kinds. -/
def anyText : Scanner String :=
  longText '"' (joinedLines <|> basicPiece) <|> basicText
    <|> longText '\x27' (span1 isLiteralChar) <|> literalText

/-! ## Keys -/

/-- Whether `c` may stand in a bare key. -/
def isKeyChar (c : Char) : Bool :=
  c.isAlphanum || c = '-' || c = '_'

/-- One part of a key. -/
def simpleKey : Scanner String :=
  basicText <|> literalText <|> (return String.ofList (← span1 isKeyChar))

/-- The most parts that a dotted key may have. -/
def maxKeyParts : Nat := 79

/-- A key, with the space around and inside it. -/
def key : Scanner (List String) := do
  let parts ← separated (char '.') (do spaces; let part ← simpleKey; spaces; return part)
  if parts.length ≤ maxKeyParts then return parts else failure

end Redline.Toml.Scanner
