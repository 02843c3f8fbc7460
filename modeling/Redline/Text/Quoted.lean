/-
  Quoted text — a text as it is shown inside a message.

  The text stands between double quotes.  NUL, tab, carriage return, line feed, the backslash and
  the double quote are written with a backslash; a character that is not printable is written by
  its code point, `\u` and the hexadecimal digits in braces; every other character stands for
  itself.
-/
import Redline.Text.Hexadecimal
import Redline.Text.Printable

namespace Redline.Text

/-- How `c` is written inside a quoted text. -/
def quotedChar (c : Char) : List Char :=
  match c with
  | '\x00' => ['\\', '0']
  | '\t' => ['\\', 't']
  | '\r' => ['\\', 'r']
  | '\n' => ['\\', 'n']
  | '\\' => ['\\', '\\']
  | '"' => ['\\', '"']
  | c =>
    if isPrintable c then [c]
    else ['\\', 'u', '\x7b'] ++ hexDigits c.toNat ++ ['\x7d']

/-- `s` between double quotes, with escapes. -/
def quotedText (s : String) : String :=
  String.ofList (['"'] ++ s.toList.flatMap quotedChar ++ ['"'])

end Redline.Text
