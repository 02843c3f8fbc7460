/-
  Running a command line.

  The settings are read first, whatever the command; then the command reads what it needs, and
  answers with what it prints.  Nothing is printed by a command that fails, nor by one that stops
  over a count that does not fit into 64 bits.  A preview is saved only when that is confirmed and
  something would change; it may stop after that.
-/
import Redline.Console.Command
import Redline.Console.Report
import Redline.Console.Settings
import Redline.Exchange.Diff
import Redline.Exchange.Preview
import Redline.Json.Write
import Redline.Preview.Workflow

namespace Redline.Console

/-- The cause of a failure of a command line. -/
inductive CommandError where
  | usage (e : UsageError)
  | settings (e : SettingsError)
  | unreadable (path : String)
  | unopened (root : String) (e : StoreError)
  | store (e : StoreError)
  | preview (e : PreviewError)
  | noEntry (id : EntryId)
deriving DecidableEq

/-- What is said about a failure; a line that runs no command has no message of its own. -/
def CommandError.message : CommandError → String
  | .usage _ => ""
  | .settings e => e.message
  | .unreadable path => "reading " ++ path
  | .unopened root _ => "opening store at " ++ root
  | .store e => e.message
  | .preview e => e.message
  | .noEntry id => "entry " ++ id.text ++ " not found"

/-- How a command that does not fail ends. -/
inductive Output where
  | printed (text : String)
  | stopped
deriving DecidableEq

/-- What is printed, if there is such a text. -/
def Output.ofText? : Option String → Output
  | some text => .printed text
  | none => .stopped

/-- The output with another text. -/
def Output.map (f : String → String) : Output → Output
  | .printed text => .printed (f text)
  | .stopped => .stopped

/-- What every command works with. -/
structure Setup where
  settings : Settings
  painter : Render.Painter
  format : OutputFormat

variable {m : Type → Type} [Monad m] [FileAccess m]

/-- Runs an operation of a store. -/
def ofStore {α : Type} (operation : ExceptT StoreError m α) : ExceptT CommandError m α :=
  operation.adapt CommandError.store

/-- The text of the file at `path`. -/
def readFile (path : String) : ExceptT CommandError m String :=
  ExceptT.mk do
    match ← FileAccess.readText (FilePath.ofText path) with
    | .ok (some text) => return .ok text
    | _ => return .error (.unreadable path)

/-- The text of a file that may not be named; the empty text if it is not. -/
def readFile? (path? : Option String) : ExceptT CommandError m String :=
  match path? with
  | some path => readFile path
  | none => return ""

namespace Setup

/-- The store that the settings name. -/
def openStore (c : Setup) : Except CommandError (DocumentStore m) :=
  match Directory.open? (FilePath.ofText c.settings.storeRoot) c.settings.tenant with
  | .ok d => .ok d.store
  | .error e => .error (.unopened c.settings.storeRoot e)

/-- The lines of context that a command shows. -/
def context (c : Setup) (given : Option Nat) : Option Nat :=
  given <|> c.settings.contextLines

/-- A value in the format that is asked for; only the text may be impossible. -/
def shown (c : Setup) (json : Json) (text? : Option String) : Output :=
  match c.format with
  | .json => .printed json.indented
  | .text => .ofText? text?

/-! ## The commands -/

/-- Shows the differences between two files. -/
def diff (c : Setup) (old new : String) (context : Option Nat) :
    ExceptT CommandError m Output := do
  let old ← readFile old
  let new ← readFile new
  let a := Diff.compareTexts old new
  return c.shown a.toJson (Report.differences c.painter a (c.context context))

/-- Splits a document into header and body. -/
def decode (c : Setup) (file : String) : ExceptT CommandError m Output := do
  let d := FrontMatter.decode (← readFile file)
  return c.shown d.toJson (some (Report.decoded d))

/-- Writes a document with the body from a file. -/
def encode (metadata : Metadata) (bodyFile : Option String) : ExceptT CommandError m Output := do
  return .printed (FrontMatter.encode metadata (← readFile? bodyFile))

/-- The entry with the id `id`, which has to be there. -/
def existing (s : DocumentStore m) (id : EntryId) : ExceptT CommandError m Entry := do
  match ← ofStore (s.fetch id) with
  | some e => return e
  | none => throw (.noEntry id)

/-- Prints an entry. -/
def print (c : Setup) (id : EntryId) : ExceptT CommandError m Output := do
  let s ← c.openStore (m := m)
  let e ← existing s id
  return c.shown e.toJson (some (FrontMatter.encodeDocument e.document))

/-- Lists the entries. -/
def list (c : Setup) : ExceptT CommandError m Output := do
  let s ← c.openStore (m := m)
  let es ← ofStore s.list
  return c.shown (.array (es.map Entry.toJson)) (some (Report.entries es))

/-- Deletes an entry, if that is confirmed. -/
def delete (c : Setup) (id : EntryId) (confirmed : Bool) : ExceptT CommandError m Output := do
  let s ← c.openStore (m := m)
  let _ ← existing s id
  if confirmed then
    let _ ← ofStore (s.delete id)
    return .printed ("Deleted entry " ++ id.text)
  else return .printed ("Run again with --yes to delete entry " ++ id.text ++ ".")

/-- Lists the tags. -/
def tags (c : Setup) (byCount : Bool) : ExceptT CommandError m Output := do
  let s ← c.openStore (m := m)
  let ts ← ofStore s.tagCounts
  let ts := if byCount then Catalog.sortByCount ts else ts
  return c.shown (.array (ts.map TagCount.toJson)) (some (Report.tags ts))

/-- Lists the category paths. -/
def categories (c : Setup) : ExceptT CommandError m Output := do
  let s ← c.openStore (m := m)
  let paths ← ofStore s.categoryPaths
  return c.shown (.array (paths.map fun path => .array (path.map Category.toJson)))
    (some (Report.categories paths))

/-- A session as an object, with its members in the order of their names. -/
def sessionJson (s : Session) (saved : Option Entry) : Json :=
  Json.sorted (.object [
    ("title", .text s.title), ("mode", s.mode.toJson), ("hasChanges", .bool s.hasChanges),
    ("diff", s.alignment.toJson),
    ("saved", match saved with | some e => e.toJson | none => .null)])

/-- Previews an entry and saves it, if that is confirmed. -/
def preview (c : Setup) (request : PreviewRequest) : ExceptT CommandError m Output := do
  let content ← readFile? request.contentFile
  let form : EntryForm :=
    { title := request.title, summary := request.summary, categories := request.categories
      tags := request.tags, content }
  let s ← c.openStore (m := m)
  let session ← (s.prepare request.mode form).adapt CommandError.preview
  let saved ←
    if request.confirmed && session.hasChanges then
      some <$> (s.confirm session).adapt CommandError.preview
    else pure none
  return c.shown (sessionJson session saved)
    (Report.session c.painter session (c.context request.context) saved)

/-- Runs a command. -/
def run (c : Setup) : Command → ExceptT CommandError m Output
  | .diff old new context => c.diff old new context
  | .encode metadata bodyFile => encode metadata bodyFile
  | .decode file => c.decode file
  | .print id => c.print id
  | .preview request => c.preview request
  | .list => c.list
  | .delete id confirmed => c.delete id confirmed
  | .template => return .printed (FrontMatter.encodeDocument FrontMatter.template)
  | .tags byCount => c.tags byCount
  | .categories => c.categories

end Setup

/-- `s` with a line feed at its end. -/
def withNewline (s : String) : String :=
  if s.toList.getLast? = some '\n' then s else s ++ "\n"

/-- Runs a request; `hasTerminal` says whether the output may be in colour. -/
def Request.run (hasTerminal : Bool) (r : Request) : ExceptT CommandError m Output := do
  let settings ← (Settings.resolve r.config).adapt CommandError.settings
  let painter : Render.Painter :=
    ⟨settings.color && !r.noColor && hasTerminal, settings.placeholder⟩
  let output ← Setup.run ⟨settings, painter, r.format⟩ r.command
  return output.map withNewline

/-- Runs a command line. -/
def runWords (hasTerminal : Bool) (ws : List String) : ExceptT CommandError m Output :=
  match Request.ofWords ws with
  | .error e => throw (.usage e)
  | .ok r => r.run hasTerminal

end Redline.Console
