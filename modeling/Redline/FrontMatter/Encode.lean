/-
  The written form of a document.

  A line `---`, the header, a line `---`, an empty line, the body.  The header has one line
  `key: value` for each field that is not empty, in a fixed order:

  1. `title` and `summary`, between double quotes;
  2. `categories` and `tags`, as bracketed lists of names between double quotes — the versions of
     the tags are not written;
  3. `date` and `updated`, bare.

  Nothing is escaped, so a value that holds a quote, a comma or a line feed may read back as
  something else.
-/
import Redline.Entry.Document
import Redline.Text.Pieces

namespace Redline.FrontMatter

/-- The line that opens and closes a header. -/
def delimiter : String := "---"

/-- `cs` between double quotes. -/
def quoted (cs : List Char) : List Char :=
  '"' :: cs ++ ['"']

/-- `names`, each between double quotes, as a bracketed list. -/
def quotedList (names : List String) : List Char :=
  '[' :: Text.join [',', ' '] (names.map fun name => quoted name.toList) ++ [']']

/-- The header line that gives `key` the value `value`. -/
def fieldLine (key : String) (value : List Char) : List Char :=
  key.toList ++ [':', ' '] ++ value

/-- The header line of a text field, none for the empty text. -/
def textLine (key : String) (write : List Char → List Char) (value : String) : List (List Char) :=
  if value = "" then [] else [fieldLine key (write value.toList)]

/-- The header line of a list field, none for the empty list. -/
def listLine (key : String) (names : List String) : List (List Char) :=
  if names = [] then [] else [fieldLine key (quotedList names)]

/-- The lines between the two delimiters. -/
def headerLines (m : Metadata) : List (List Char) :=
  textLine "title" quoted m.title
    ++ textLine "summary" quoted (m.summary.getD "")
    ++ listLine "categories" m.categoryNames
    ++ listLine "tags" m.tagNames
    ++ textLine "date" id (m.date.getD "")
    ++ textLine "updated" id (m.updated.getD "")

/-- The written form, character by character. -/
def encodeChars (m : Metadata) (body : List Char) : List Char :=
  delimiter.toList ++ ['\n']
    ++ (headerLines m).flatMap (· ++ ['\n'])
    ++ delimiter.toList ++ ['\n', '\n'] ++ body

/-- The written form of `body` under the metadata `m`. -/
def encode (m : Metadata) (body : String) : String :=
  String.ofList (encodeChars m body.toList)

/-- The written form of a document. -/
def encodeDocument (d : Document) : String :=
  encode d.metadata d.body

/-- A document to start a new entry from. -/
def template : Document where
  metadata := {
    title := "Title"
    summary := some "One-line summary"
    categories := [⟨"Category"⟩]
    tags := [⟨"tag", none⟩] }
  body := "Write the entry here.\n"

@[simp] theorem toList_encode (m : Metadata) (body : String) :
    (encode m body).toList = encodeChars m body.toList := by
  simp [encode]

end Redline.FrontMatter
