/-
  The program.

  Its arguments are one command line.  What the command prints goes to the standard output; a
  failure goes to the standard error.  The exit code is 0 for a success and for a text of help
  that was asked for, 2 for a line that runs no command, and 1 for every other failure.
-/
import Redline.Console.Run

namespace Redline

/-! ## Files of the system -/

/-- The number of an error, which some calls give with a minus sign. -/
def unsignedCode (code : UInt32) : UInt32 :=
  if code < 0x80000000 then code else 0 - code

/-- The reason with the given number, for an error that says `text`. -/
def FileError.ofCode (code : UInt32) (text : String) : FileError :=
  match unsignedCode code with
  | 2 => .notFound
  | 17 => .alreadyExists
  | 20 => .notADirectory
  | 21 => .isADirectory
  | 36 => .nameTooLong
  | _ => .other text

/-- The reason behind an error of the system. -/
def FileError.ofSystem (e : IO.Error) : FileError :=
  match e with
  | .noFileOrDirectory _ _ _ => .notFound
  | .alreadyExists _ code _ => FileError.ofCode code e.toString
  | .inappropriateType _ code _ => FileError.ofCode code e.toString
  | .invalidArgument _ code _ => FileError.ofCode code e.toString
  | .resourceExhausted _ code _ => FileError.ofCode code e.toString
  | .otherError code _ => FileError.ofCode code e.toString
  | _ => .other e.toString

/-- Runs an action; an error of the system is a refusal. -/
def attempt {α : Type} (action : IO α) : IO (Except FileError α) := do
  match ← action.toBaseIO with
  | .ok a => return .ok a
  | .error e => return .error (FileError.ofSystem e)

/-- How many names are tried for a new file. -/
def triedNames : Nat := 1000

/-- Makes a new file at `path.child name` for the first of the names `names` that is free. -/
def writeNewFile (path : FilePath) (bytes : ByteArray) : List String → IO FilePath
  | [] => throw (.userError "no free name for a new file")
  | name :: names => do
    let new := path.child name
    match ← (IO.FS.Handle.mk new.text .writeNew).toBaseIO with
    | .ok handle => do
      handle.write bytes
      return new
    | .error (.alreadyExists _ _ _) => writeNewFile path bytes names
    | .error e => throw e

instance : FileAccess IO where
  read path := attempt (IO.FS.readBinFile path.text)
  names path := attempt do
    let here : IO.FS.DirEntry := ⟨path.text, ""⟩
    return (← here.root.readDir).toList.map fun e => FileName.ofText e.fileName
  isDirectory path := do
    let here : IO.FS.DirEntry := ⟨path.text, ""⟩
    here.root.isDir
  makeDirectory path := attempt (IO.FS.createDir path.text)
  newFile path bytes :=
    attempt (writeNewFile path bytes ((List.range triedNames).map FilePath.temporaryName))
  rename source target := attempt (IO.FS.rename source.text target.text)
  remove path := attempt (IO.FS.removeFile path.text)

/-! ## Help -/

/-- The lines that say how the program is used. -/
def helpText : String :=
  "Usage: redline [OPTIONS] <COMMAND>\n\nCommands:\n"
    ++ String.join (Console.commandSpecs.map fun s => "  " ++ s.name ++ "\n")
    ++ "\nOptions:\n"
    ++ String.join (Console.globalOptions.map fun o => "  --" ++ o.long ++ "\n")

/-- What is said about a line that runs no command. -/
def usageText (e : Console.UsageError) : String :=
  match e with
  | .missingArgument => "an argument or option is missing"
  | .unknownArgument => "an argument or option is not known"
  | .invalidValue => "a value is missing or not one of the possible ones"
  | .malformedValue => "a value is neither a number nor an id"
  | .repeatedOption => "an option is given twice"
  | .surplusValue => "an option takes no value"
  | .invalidCommand => "the command is not known"
  | .missingCommand => "the command is missing"
  | .help => helpText
  | .version => "redline 0.1.0"
  | .emptyLine => helpText

/-- Says why a command line failed; answers the exit code. -/
def reportFailure (e : Console.CommandError) : IO UInt32 := do
  match e with
  | .usage .help => do
    IO.print (usageText .help)
    return 0
  | .usage .version => do
    IO.println (usageText .version)
    return 0
  | .usage e => do
    IO.eprintln (usageText e)
    return 2
  | e => do
    IO.eprintln ("error: " ++ e.message)
    return 1

end Redline

/-- Runs the command line `args`. -/
def main (args : List String) : IO UInt32 := do
  let hasTerminal ← (← IO.getStdout).isTty
  let result : ExceptT Redline.Console.CommandError IO Redline.Console.Output :=
    Redline.Console.runWords hasTerminal args
  match ← result.run with
  | .ok (.printed text) => do
    IO.print text
    return 0
  | .ok .stopped => do
    IO.eprintln "a count does not fit into 64 bits"
    return 101
  | .error e => Redline.reportFailure e
