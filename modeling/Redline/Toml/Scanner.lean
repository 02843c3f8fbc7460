/-
  Scanners — readers of the start of a text.

  A scanner reads characters from the start of a list and leaves the rest, or fails; the choice
  `p <|> q` runs `q` from where `p` started.  `many` repeats a scanner until it fails or leaves as
  many characters as it found, so it ends on every text.
-/

namespace Redline.Toml

/-- A reader of the start of a text. -/
abbrev Scanner := StateT (List Char) Option

namespace Scanner

variable {α : Type}

/-- The next character, if it passes the test. -/
def accept (test : Char → Bool) : Scanner Char
  | [] => none
  | c :: cs => if test c then some (c, cs) else none

/-- The character `c`. -/
def char (c : Char) : Scanner Unit := do
  let _ ← accept (· = c)

/-- The characters `cs`, one after the other. -/
def word : List Char → Scanner Unit
  | [] => return ()
  | c :: cs => do
    char c
    word cs

/-- The longest run of characters that pass the test. -/
def span (test : Char → Bool) : Scanner (List Char) :=
  fun cs => some (cs.takeWhile test, cs.dropWhile test)

/-- The longest run of characters that pass the test, at least one. -/
def span1 (test : Char → Bool) : Scanner (List Char) := do
  let run ← span test
  if run = [] then failure else return run

/-- What `p` reads, or nothing where it fails. -/
def option (p : Scanner α) : Scanner (Option α) :=
  (some <$> p) <|> return none

/-- The end of the text. -/
def atEnd : Scanner Unit
  | [] => some ((), [])
  | _ :: _ => none

/-- What `p` reads from `cs` on, again and again. -/
def manyFrom (p : Scanner α) (cs : List Char) : List α × List Char :=
  match p cs with
  | none => ([], cs)
  | some (a, rest) =>
    if rest.length < cs.length then
      let (as, rest) := manyFrom p rest
      (a :: as, rest)
    else ([a], rest)
termination_by cs.length

/-- What `p` reads, again and again. -/
def many (p : Scanner α) : Scanner (List α) :=
  fun cs => some (manyFrom p cs)

/-- What `p` reads, with `sep` between each two. -/
def separated (sep : Scanner Unit) (p : Scanner α) : Scanner (List α) := do
  let first ← p
  let others ← many (do sep; p)
  return first :: others

/-- The characters that `p` reads. -/
def source (p : Scanner α) : Scanner String := fun cs => do
  let (_, rest) ← p cs
  return (String.ofList (cs.take (cs.length - rest.length)), rest)

/-! ## Space, lines and comments -/

/-- Whether `c` separates words within a line. -/
def isSpace (c : Char) : Bool :=
  c = ' ' || c = '\t'

/-- Whether `c` may stand in a comment: any character but the controls, of which only the tab. -/
def isShown (c : Char) : Bool :=
  c = '\t' || (0x20 ≤ c.toNat && c.toNat ≠ 0x7F)

/-- Spaces and tabs. -/
def spaces : Scanner Unit := do
  let _ ← span isSpace

/-- The end of a line: a line feed, which a carriage return may precede. -/
def newline : Scanner Unit :=
  char '\n' <|> word ['\r', '\n']

/-- A comment, up to the end of its line. -/
def comment : Scanner Unit := do
  char '#'
  let _ ← span isShown

/-- The end of a line or of the text. -/
def lineEnd : Scanner Unit :=
  newline <|> atEnd

/-- What may follow on a line: space, a comment, the end. -/
def trailing : Scanner Unit := do
  spaces
  let _ ← option comment
  lineEnd

/-- Space, ends of lines and comments. -/
def gap : Scanner Unit := do
  let _ ← many (do spaces; let _ ← option comment; newline)
  spaces

end Scanner

end Redline.Toml
