/-
  The commands of the console.

  A line has global options, the name of a command, and the options and arguments of that command;
  the global options may also stand behind the name.  The words behind the name are judged before
  the value that is pending in front of it.

  `Request.ofWords` reads a whole line.
-/
import Redline.Console.Usage
import Redline.Preview.Form

namespace Redline.Console

/-- What is previewed, and whether it is to be saved. -/
structure PreviewRequest where
  mode : PreviewMode
  title : String
  summary : String
  categories : List String
  tags : List String
  contentFile : Option String
  context : Option Nat
  confirmed : Bool
deriving DecidableEq

/-- What the console can do. -/
inductive Command where
  /-- Show the differences between two files. -/
  | diff (old new : String) (context : Option Nat)
  /-- Write a document, with the body from a file. -/
  | encode (metadata : Metadata) (bodyFile : Option String)
  /-- Split a document into header and body. -/
  | decode (file : String)
  /-- Print an entry. -/
  | print (id : EntryId)
  /-- Preview an entry and possibly save it. -/
  | preview (request : PreviewRequest)
  /-- List the entries. -/
  | list
  /-- Delete an entry. -/
  | delete (id : EntryId) (confirmed : Bool)
  /-- Print a document to start a new entry from. -/
  | template
  /-- List the tags, the most used first or by name. -/
  | tags (byCount : Bool)
  /-- List the category paths. -/
  | categories
deriving DecidableEq

/-- A command under the global options. -/
structure Request where
  format : OutputFormat
  config : Option String
  noColor : Bool
  command : Command
deriving DecidableEq

/-! ## The options -/

/-- An option that takes no value. -/
def flag (long : String) (short : Option Char) : OptionSpec :=
  ⟨long, short, .flag⟩

/-- An option that takes one value. -/
def single (long : String) (short : Option Char) (kind : ValueKind) : OptionSpec :=
  ⟨long, short, .value kind false⟩

/-- An option that may be given more than once. -/
def repeated (long : String) : OptionSpec :=
  ⟨long, none, .value .text true⟩

/-- The options of every line. -/
def globalOptions : List OptionSpec :=
  [flag "verbose" (some 'v'), single "format" none .format, single "config" none .path,
    flag "no-color" none, ⟨"help", some 'h', .help⟩]

/-- The option for the lines of context. -/
def contextOption : OptionSpec :=
  single "context" (some 'U') .number

/-- The option that stands for a confirmation. -/
def yesOption : OptionSpec :=
  flag "yes" (some 'y')

/-! ## The commands -/

/-- A command by its name: what may follow the name, and the command that it makes up; none if
    something is missing. -/
structure CommandSpec where
  name : String
  options : List OptionSpec := []
  arguments : List Slot := []
  build : Found → Option Command

/-- What may follow the name of a command. -/
def CommandSpec.grammar (s : CommandSpec) : Grammar where
  options := s.options ++ globalOptions
  arguments := s.arguments

/-- The differences between two files. -/
def diffSpec : CommandSpec where
  name := "diff"
  options := [contextOption]
  arguments := [⟨"old", .path, false⟩, ⟨"new", .path, false⟩]
  build f := do
    return .diff (← f.value? "old") (← f.value? "new") (f.number? "context")

/-- The metadata that options describe. -/
def metadataOf (f : Found) : Metadata where
  title := (f.value? "title").getD ""
  summary := f.value? "summary"
  categories := (f.values "category").map fun name => ⟨name⟩
  tags := (f.values "tag").map fun name => ⟨name, none⟩
  date := f.value? "date"
  updated := f.value? "updated"

/-- A document from its parts. -/
def encodeSpec : CommandSpec where
  name := "encode"
  options := [single "title" none .text, single "summary" none .text, repeated "category",
    repeated "tag", single "date" none .text, single "updated" none .text,
    single "body-file" none .path]
  build f := some (.encode (metadataOf f) (f.value? "body-file"))

/-- The parts of a document. -/
def decodeSpec : CommandSpec where
  name := "decode"
  arguments := [⟨"file", .path, false⟩]
  build f := do return .decode (← f.value? "file")

/-- An entry in its written form. -/
def printSpec : CommandSpec where
  name := "show"
  arguments := [⟨"id", .entryId, false⟩]
  build f := do return .print (← f.id? "id")

/-- The mode that options ask for: an edit needs an id, and only an edit has a time stamp. -/
def modeOf? (f : Found) : Option PreviewMode :=
  let id? := f.id? "id"
  let updateTimestamp := f.has "update-timestamp"
  if f.has "edit" then id?.map fun id => .edit id updateTimestamp
  else if updateTimestamp then none
  else some (.create id?)

/-- A preview. -/
def previewSpec : CommandSpec where
  name := "preview"
  options := [single "id" none .entryId, flag "edit" none, flag "update-timestamp" none,
    single "title" none .text, single "summary" none .text, repeated "category",
    repeated "tag", single "content-file" none .path, contextOption, yesOption]
  build f := do
    return .preview {
      mode := ← modeOf? f
      title := ← f.value? "title"
      summary := (f.value? "summary").getD ""
      categories := f.values "category"
      tags := f.values "tag"
      contentFile := f.value? "content-file"
      context := f.number? "context"
      confirmed := f.has "yes" }

/-- A deletion. -/
def deleteSpec : CommandSpec where
  name := "delete"
  options := [yesOption]
  arguments := [⟨"id", .entryId, false⟩]
  build f := do return .delete (← f.id? "id") (f.has "yes")

/-- The tags. -/
def tagsSpec : CommandSpec where
  name := "tags"
  options := [flag "sort" (some 's')]
  build f := some (.tags (f.has "sort"))

/-- All commands. -/
def commandSpecs : List CommandSpec :=
  [diffSpec, encodeSpec, decodeSpec, printSpec, previewSpec,
    { name := "list", build := fun _ => some .list }, deleteSpec,
    { name := "template", build := fun _ => some .template }, tagsSpec,
    { name := "categories", build := fun _ => some .categories }]

/-- The command with a name. -/
def findCommand? (name : String) : Option CommandSpec :=
  commandSpecs.find? fun s => s.name = name

/-- The name that asks for the help text. -/
def helpName : String := "help"

/-- Whether a word stands where a command has to, and names one. -/
def isCommandName (w : String) : Bool :=
  w = helpName || (findCommand? w).isSome

/-! ## Whole lines -/

/-- What may stand in front of the name of a command. -/
def rootGrammar : Grammar where
  options := globalOptions ++ [⟨"version", some 'V', .version⟩]
  surplus := fun behindDashes w =>
    if behindDashes && isCommandName w then .unknownArgument else .invalidCommand

/-- What is said to `help` with the words `ws` behind it: at most one name of a command. -/
def helpOn : List String → UsageError
  | [] => .help
  | [w] => if isCommandName w then .help else .invalidCommand
  | _ :: _ :: _ => .invalidCommand

/-- Reads up to the name of a command; answers the command and the words behind its name. -/
def readRoot (r : Reading) :
    List String → Except UsageError (Reading × Option (CommandSpec × List String))
  | [] => .ok (r, none)
  | w :: ws =>
    if !r.onlyArguments && !r.isWaiting && isCommandName w then
      match findCommand? w with
      | some s => .ok (r, some (s, ws))
      | none => .error (helpOn ws)
    else
      match r.word rootGrammar w with
      | .error e => .error e
      | .ok r => readRoot r ws

/-- The request that `command` makes under the global options that are given behind its name and
    in front of it; the former win. -/
def Request.ofFound (command : Command) (inner outer : Found) : Request :=
  let f : Found := inner ++ outer
  { format := ((f.value? "format").bind OutputFormat.ofWord?).getD .text
    config := f.value? "config"
    noColor := f.has "no-color"
    command }

/-- The request that the words of a line make. -/
def Request.ofWords (ws : List String) : Except UsageError Request := do
  match ← readRoot (Reading.start rootGrammar) ws with
  | (r, none) =>
    if (← r.settle).found = [] then .error .emptyLine else .error .missingCommand
  | (r, some (s, rest)) =>
    let inner ← s.grammar.read rest
    match s.build inner with
    | none => .error .missingArgument
    | some command => return Request.ofFound command inner (← r.settle).found

end Redline.Console
