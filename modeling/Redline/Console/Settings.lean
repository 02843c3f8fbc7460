/-
  Settings of the console.

  Each setting has a default.  A file with settings is a TOML document whose members of a known
  name replace the defaults; other members do not matter.  A member of a known name and a wrong
  type makes the whole file unusable.
-/
import Redline.Files.Access
import Redline.Store.Directory
import Redline.Toml.Read

namespace Redline.Console

/-- What can be set. -/
structure Settings where
  /-- The directory that holds a directory for each tenant. -/
  storeRoot : String := "entries"
  tenant : String := Directory.defaultTenant
  /-- Whether differences may be shown in colour. -/
  color : Bool := true
  /-- How many unchanged lines surround each change; without it, all are shown. -/
  contextLines : Option Nat := none
  /-- What stands for an empty line. -/
  placeholder : String := "(empty line)"
deriving DecidableEq, Repr

/-- The cause of a failure to read settings. -/
inductive SettingsError where
  | unreadable (path : String)
  | malformed (path : String)
deriving DecidableEq, Repr

/-- What is said about such a failure. -/
def SettingsError.message : SettingsError → String
  | .unreadable path => "reading config " ++ path
  | .malformed path => "parsing config " ++ path

namespace Settings

/-- The value of the member `name`, read by `read`; `default` if there is no such member. -/
def member? {α : Type} (ms : Toml.Members) (name : String) (read : Toml → Option α)
    (default : α) : Option α :=
  match ms.lookup name with
  | none => some default
  | some v => read v

/-- The settings that the members of a document describe. -/
def ofMembers? (ms : Toml.Members) : Option Settings := do
  let unset : Settings := {}
  let storeRoot ← member? ms "store_root" Toml.text? unset.storeRoot
  let tenant ← member? ms "tenant" Toml.text? unset.tenant
  let color ← member? ms "color" Toml.boolean? unset.color
  let contextLines ← member? ms "context_lines" (fun v => v.natural?.map some) unset.contextLines
  let placeholder ← member? ms "empty_line_placeholder" Toml.text? unset.placeholder
  return { storeRoot, tenant, color, contextLines, placeholder }

variable {m : Type → Type} [Monad m] [FileAccess m]

/-- The settings in the file at `path`. -/
def load (path : String) : ExceptT SettingsError m Settings :=
  ExceptT.mk do
    match ← FileAccess.readText (FilePath.ofText path) with
    | .ok (some text) =>
      match (Toml.read? text).bind ofMembers? with
      | some settings => return .ok settings
      | none => return .error (.malformed path)
    | _ => return .error (.unreadable path)

/-- The settings in the file at `path?`, or the defaults without such a path. -/
def resolve (path? : Option String) : ExceptT SettingsError m Settings :=
  match path? with
  | some path => load path
  | none => return {}

end Settings

end Redline.Console
