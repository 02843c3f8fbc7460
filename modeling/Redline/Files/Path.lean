/-
  File names and file paths.

  A name in a directory is a list of bytes, which need not encode a text.  A path is a text, split
  into its components: the pieces at the slashes.  The empty path has no component; an absolute
  path starts with the empty component.  Nothing is normalised here.
-/
import Redline.Text.Numeral
import Redline.Text.Pieces

namespace Redline

/-- The name of a file or of a directory. -/
structure FileName where
  bytes : List UInt8
deriving DecidableEq, Repr

namespace FileName

/-- The name that `s` encodes. -/
def ofText (s : String) : FileName :=
  ⟨s.toUTF8.data.toList⟩

/-- The text that the name encodes, if it encodes one. -/
def text? (n : FileName) : Option String :=
  String.fromUTF8? ⟨⟨n.bytes⟩⟩

@[simp] theorem text?_ofText (s : String) : (ofText s).text? = some s := by
  have h : (⟨⟨s.toUTF8.data.toList⟩⟩ : ByteArray).IsValidUTF8 := s.isValidUTF8
  unfold ofText text? String.fromUTF8?
  rw [dif_pos h]
  rfl

end FileName

/-- The components of a path, from the outermost on. -/
abbrev FilePath := List String

namespace FilePath

/-- The path that `s` writes. -/
def ofText (s : String) : FilePath :=
  if s = "" then [] else (Text.pieces '/' s.toList).map String.ofList

/-- The path in writing. -/
def text (p : FilePath) : String :=
  String.ofList (Text.join ['/'] (p.map String.toList))

/-- The path of `name` in the directory at `p`; a slash at the end of `p` is the one between. -/
def child (p : FilePath) (name : String) : FilePath :=
  if p.getLast? = some "" then p.dropLast ++ [name] else p ++ [name]

/-- The name with the number `n` for a temporary file: six digits, or more where `n` has more. -/
def temporaryName (n : Nat) : String :=
  let digits := Text.decimal n
  ".tmp" ++ String.ofList (List.replicate (6 - digits.length) '0' ++ digits)

end FilePath

/-- The reason why the system refuses a file operation. -/
inductive FileError where
  | notFound
  | alreadyExists
  | notADirectory
  | isADirectory
  | nameTooLong
  | nulInName
  | other (text : String)
deriving DecidableEq, Repr

/-- What the system says. -/
def FileError.message : FileError → String
  | .notFound => "No such file or directory (os error 2)"
  | .alreadyExists => "File exists (os error 17)"
  | .notADirectory => "Not a directory (os error 20)"
  | .isADirectory => "Is a directory (os error 21)"
  | .nameTooLong => "File name too long (os error 36)"
  | .nulInName => "file name contained an unexpected NUL byte"
  | .other text => text

end Redline
