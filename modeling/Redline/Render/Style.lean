/-
  Styled text for terminals.

  A style is switched on by an escape sequence with its code and off by the sequence with the code
  zero.  Since the latter switches off every style, a text that holds it already gets the code of
  the outer style again behind each one.
-/

namespace Redline.Render

/-- A colour or a weight of text. -/
inductive Style where
  | bold
  | dimmed
  | red
  | green
  | cyan
deriving DecidableEq, Repr

/-- The digits of the code of a style. -/
def Style.code : Style → List Char
  | .bold => ['1']
  | .dimmed => ['2']
  | .red => ['3', '1']
  | .green => ['3', '2']
  | .cyan => ['3', '6']

/-- The escape sequence with the code `code`. -/
def escapeSequence (code : List Char) : List Char :=
  '\x1b' :: '[' :: code ++ ['m']

/-- The escape sequence that switches every style off. -/
def reset : List Char :=
  escapeSequence ['0']

/-- `cs` with `opening` behind each reset. -/
def reopen (opening : List Char) : List Char → List Char
  | '\x1b' :: '[' :: '0' :: 'm' :: rest => reset ++ opening ++ reopen opening rest
  | c :: rest => c :: reopen opening rest
  | [] => []

/-- `cs` in a style. -/
def styled (style : Style) (cs : List Char) : List Char :=
  let opening := escapeSequence style.code
  opening ++ reopen opening cs ++ reset

end Redline.Render
