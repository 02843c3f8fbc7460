/-
  Reading the written form of a document.

  1. **The header** — a text has one when its first line is `---` and a later line is `---` too;
     the header is what lies between them.  `splitHeader` walks over the characters once.
  2. **Its lines** — each line of the header that has a colon may set one field.  What it sets is a
     `Setting`; a line with an unknown key, or a list that is not in brackets, sets nothing.
  3. **The fields** — a later setting of a field replaces an earlier one.
  4. **The body** — what follows the closing line, less one line feed.  A text without a header is
     all body, and then it is trimmed.
-/
import Redline.FrontMatter.Fields
import Redline.Text.Blank
import Redline.Text.Pieces

namespace Redline.FrontMatter

/-! ## The header -/

/-- What follows a closing line at the start of `cs`, if there is such a line. -/
def afterClosing? : List Char → Option (List Char)
  | ['-', '-', '-'] => some []
  | '-' :: '-' :: '-' :: '\n' :: rest => some rest
  | _ => none

/-- The header and what follows its closing line, where `read` is what has been read of the header
    so far, the last character first, and does not end at the end of a line. -/
def scanHeader (read : List Char) : List Char → Option (List Char × List Char)
  | [] => none
  | c :: rest =>
    if c = '\n' then
      match afterClosing? rest with
      | some body => some (read.reverse, body)
      | none => scanHeader (c :: read) rest
    else scanHeader (c :: read) rest

/-- The header of `cs` and what follows its closing line, if `cs` has a header. -/
def splitHeader : List Char → Option (List Char × List Char)
  | '-' :: '-' :: '-' :: '\n' :: rest =>
    match afterClosing? rest with
    | some body => some ([], body)
    | none => scanHeader [] rest
  | _ => none

/-! ## Its lines -/

/-- Whether `c` may stand around a value. -/
def isQuote (c : Char) : Bool :=
  c = '"' || c = '\x27'

/-- `cs` without one quote at its start. -/
def withoutFirstQuote : List Char → List Char
  | [] => []
  | c :: cs => if isQuote c then cs else c :: cs

/-- `cs` without one quote at its start and then one at its end; the two need not match. -/
def withoutQuotes (cs : List Char) : List Char :=
  (withoutFirstQuote (withoutFirstQuote cs).reverse).reverse

/-- What stands between a `[` at the start of `cs` and a later `]` at its end. -/
def inBrackets? : List Char → Option (List Char)
  | '[' :: cs => if cs.getLast? = some ']' then some cs.dropLast else none
  | _ => none

/-- The names in a bracketed list: the pieces at the commas, trimmed and without quotes, as far as
    something is left of them. -/
def listNames? (value : List Char) : Option (List String) := do
  let inner ← inBrackets? value
  let names := (Text.pieces ',' inner).map fun item => withoutQuotes (Text.trimmed item)
  return (names.filter (· ≠ [])).map String.ofList

/-- What one line of a header sets. -/
inductive Setting where
  | title (text : String)
  | summary (text : String)
  | categories (names : List String)
  | tags (names : List String)
  | date (text : String)
  | updated (text : String)
deriving DecidableEq, Repr

/-- What a line with the key `key` and the value `value`, both trimmed, sets. -/
def Setting.ofField? (key : String) (value : List Char) : Option Setting :=
  let text := String.ofList (withoutQuotes value)
  match key with
  | "title" => some (.title text)
  | "summary" => some (.summary text)
  | "categories" => (listNames? value).map .categories
  | "tags" => (listNames? value).map .tags
  | "date" => some (.date text)
  | "updated" => some (.updated text)
  | _ => none

/-- What a line sets, if it sets anything: the key ends at the first colon. -/
def Setting.ofLine? (line : List Char) : Option Setting := do
  let (key, value) ← Text.splitFirst? ':' line
  Setting.ofField? (String.ofList (Text.trimmed key)) (Text.trimmed value)

/-! ## The fields and the body -/

/-- `f` after one more setting. -/
def Fields.set (f : Fields) : Setting → Fields
  | .title text => { f with title := some text }
  | .summary text => { f with summary := some text }
  | .categories names => { f with categories := some (names.map fun name => ⟨name⟩) }
  | .tags names => { f with tags := some (names.map fun name => ⟨name, none⟩) }
  | .date text => { f with date := some text }
  | .updated text => { f with updated := some text }

/-- The fields that the lines `ls` set, in this order. -/
def Fields.ofLines (ls : List (List Char)) : Fields :=
  (ls.filterMap Setting.ofLine?).foldl Fields.set {}

/-- `cs` without one line feed at its start. -/
def withoutFirstNewline : List Char → List Char
  | '\n' :: cs => cs
  | cs => cs

/-- The fields and the body of `cs`. -/
def decodeChars (cs : List Char) : Decoded :=
  match splitHeader cs with
  | none => ⟨{}, String.ofList (Text.trimmed cs)⟩
  | some (header, rest) =>
    ⟨Fields.ofLines (Text.pieces '\n' header), String.ofList (withoutFirstNewline rest)⟩

/-- The fields and the body of `text`. -/
def decode (text : String) : Decoded :=
  decodeChars text.toList

/-- The document that `text` describes. -/
def decodeDocument (text : String) : Document :=
  (decode text).toDocument

end Redline.FrontMatter
