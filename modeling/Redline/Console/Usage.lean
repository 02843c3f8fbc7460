/-
  Command lines, read word by word.

  A grammar lists the options and the arguments of a line.  `Reading.word` takes one word:

  1. `--` makes every later word an argument;
  2. a word behind `--` is a long option, with its value behind `=` or in the next word;
  3. a word behind `-` is a run of short options; the first one that takes a value takes the rest
     of the word, less one `=`, or else the next word;
  4. any other word is the value that the option before it waits for, or the next argument.

  A word that starts with `-` is never the value of the option before it.

  **When a value is judged** — a value in a word of its own, and an argument, stays pending until
  the next option or argument is recognised, or the line ends; only then is it checked.  So a word
  that is not recognised at all is reported before the bad value in front of it.
-/
import Redline.Entry.Id
import Redline.Text.Pieces

namespace Redline.Console

/-- Why a command line runs no command. -/
inductive UsageError where
  /-- An argument or an option is missing. -/
  | missingArgument
  /-- An option is not known, or an argument is one too many. -/
  | unknownArgument
  /-- A value is missing or not one of the possible ones. -/
  | invalidValue
  /-- A value is not a number or not an id. -/
  | malformedValue
  /-- An option is given twice. -/
  | repeatedOption
  /-- An option that takes no value has one. -/
  | surplusValue
  /-- A command is not known. -/
  | invalidCommand
  /-- There is no command. -/
  | missingCommand
  /-- The help text is asked for. -/
  | help
  /-- The version is asked for. -/
  | version
  /-- There is nothing on the line. -/
  | emptyLine
deriving DecidableEq, Repr

/-- How a command shows what it has to say. -/
inductive OutputFormat where
  | text
  | json
deriving DecidableEq, Repr

/-- The format that a word names. -/
def OutputFormat.ofWord? : String → Option OutputFormat
  | "text" => some .text
  | "json" => some .json
  | _ => none

/-- What a value has to be. -/
inductive ValueKind where
  | text
  | path
  | format
  | number
  | entryId
deriving DecidableEq, Repr

/-- What is wrong with a value. -/
def ValueKind.fault? (k : ValueKind) (v : String) : Option UsageError :=
  match k with
  | .text => none
  | .path => if v = "" then some .invalidValue else none
  | .format => if (OutputFormat.ofWord? v).isSome then none else some .invalidValue
  | .number => if (Text.count? v.toList).isSome then none else some .malformedValue
  | .entryId => if (EntryId.parse v).isOk then none else some .malformedValue

/-! ## Grammars -/

/-- A place for values. -/
structure Slot where
  name : String
  kind : ValueKind := .text
  repeatable : Bool := false
deriving DecidableEq, Repr

/-- What an option does. -/
inductive OptionAction where
  | flag
  | value (kind : ValueKind) (repeatable : Bool)
  | help
  | version
deriving DecidableEq, Repr

/-- An option. -/
structure OptionSpec where
  long : String
  short : Option Char
  action : OptionAction
deriving DecidableEq, Repr

/-- What may stand on a line. -/
structure Grammar where
  options : List OptionSpec
  arguments : List Slot := []
  /-- What is wrong with an argument too many, which may be one behind `--`. -/
  surplus : Bool → String → UsageError := fun _ _ => .unknownArgument

/-- The names and values that a line gives, the last one first; a flag has the empty value. -/
abbrev Found := List (String × String)

namespace Found

/-- Whether `name` is given. -/
def has (f : Found) (name : String) : Bool :=
  f.any fun v => v.1 = name

/-- The last value of `name`. -/
def value? (f : Found) (name : String) : Option String :=
  f.lookup name

/-- The values of `name`, in order. -/
def values (f : Found) (name : String) : List String :=
  (f.reverse.filter fun v => v.1 = name).map Prod.snd

/-- The number that is the value of `name`. -/
def number? (f : Found) (name : String) : Option Nat := do
  Text.count? (← f.value? name).toList

/-- The id that is the value of `name`. -/
def id? (f : Found) (name : String) : Option EntryId := do
  (EntryId.parse (← f.value? name)).toOption

end Found

/-! ## Reading -/

/-- A value that has not been checked yet, or an option that waits for its value. -/
structure Pending where
  slot : Slot
  value : Option String

/-- How far a line has been read. -/
structure Reading where
  /-- The arguments that are still missing. -/
  arguments : List Slot
  found : Found := []
  pending : Option Pending := none
  /-- Whether every later word is an argument. -/
  onlyArguments : Bool := false

namespace Reading

/-- Nothing has been read yet. -/
def start (g : Grammar) : Reading where
  arguments := g.arguments

/-- Whether the next word is the value of an option, unless it starts with `-`. -/
def isWaiting (r : Reading) : Bool :=
  !r.onlyArguments && r.pending.any fun p => p.value.isNone

/-- Takes a value for a place, once it is checked. -/
def take (r : Reading) (slot : Slot) (v : String) : Except UsageError Reading :=
  if !slot.repeatable && r.found.has slot.name then .error .repeatedOption
  else match slot.kind.fault? v with
    | some e => .error e
    | none => .ok { r with found := (slot.name, v) :: r.found }

/-- Takes the value that is pending. -/
def settle (r : Reading) : Except UsageError Reading :=
  match r.pending with
  | none => .ok r
  | some ⟨_, none⟩ => .error .invalidValue
  | some ⟨slot, some v⟩ => { r with pending := none }.take slot v

/-- Takes an option together with its value, if there is one at hand. -/
def useOption (r : Reading) (o : OptionSpec) (value? : Option String) :
    Except UsageError Reading := do
  let r ← r.settle
  match o.action, value? with
  | .flag, _ => r.take ⟨o.long, .text, false⟩ ""
  | .value kind repeatable, some v => r.take ⟨o.long, kind, repeatable⟩ v
  | .value kind repeatable, none =>
    return { r with pending := some ⟨⟨o.long, kind, repeatable⟩, none⟩ }
  | .help, _ => .error .help
  | .version, _ => .error .version

/-- Takes a long option, without the `--`. -/
def longOption (g : Grammar) (r : Reading) (cs : List Char) : Except UsageError Reading :=
  let (name, value?) :=
    match Text.splitFirst? '=' cs with
    | some (name, v) => (name, some (String.ofList v))
    | none => (cs, none)
  match g.options.find? fun o => o.long.toList = name with
  | none => .error .unknownArgument
  | some o =>
    match o.action, value? with
    | .value _ _, _ => r.useOption o value?
    | _, some _ => .error .surplusValue
    | _, none => r.useOption o none

/-- `cs` without one `=` at its start. -/
def withoutEquals : List Char → List Char
  | '=' :: cs => cs
  | cs => cs

/-- Takes a run of short options, without the `-`. -/
def shortOptions (g : Grammar) (r : Reading) : List Char → Except UsageError Reading
  | [] => .ok r
  | c :: cs =>
    match g.options.find? fun o => o.short = some c with
    | none => .error .unknownArgument
    | some o =>
      match o.action with
      | .value _ _ =>
        r.useOption o (if cs = [] then none else some (String.ofList (withoutEquals cs)))
      | _ =>
        match r.useOption o none with
        | .error e => .error e
        | .ok r => shortOptions g r cs

/-- Takes an argument. -/
def argument (g : Grammar) (r : Reading) (w : String) : Except UsageError Reading :=
  match r.arguments with
  | [] => .error (g.surplus r.onlyArguments w)
  | slot :: rest => do
    return { ← r.settle with arguments := rest, pending := some ⟨slot, some w⟩ }

/-- Takes one word. -/
def word (g : Grammar) (r : Reading) (w : String) : Except UsageError Reading :=
  if r.onlyArguments then r.argument g w
  else match w.toList with
    | ['-', '-'] => .ok { r with onlyArguments := true }
    | '-' :: '-' :: cs => r.longOption g cs
    | '-' :: c :: cs => r.shortOptions g (c :: cs)
    | _ =>
      match r.pending with
      | some ⟨slot, none⟩ => .ok { r with pending := some ⟨slot, some w⟩ }
      | _ => r.argument g w

end Reading

/-- What the words `ws` give. -/
def Grammar.read (g : Grammar) (ws : List String) : Except UsageError Found := do
  let r ← ws.foldlM (Reading.word g) (Reading.start g)
  return (← r.settle).found

end Redline.Console
