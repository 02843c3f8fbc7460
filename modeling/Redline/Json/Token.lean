/-
  The tokens of a JSON text.

  1. **Writing** — a token has one written form.  In a string the double quote, the backslash and
     the control characters below U+0020 are escaped, by a letter where there is one and otherwise
     by four hexadecimal digits; every other character stands for itself.
  2. **Reading** — `tokens?` walks over the text once.  Between tokens it skips space, tab, line
     feed and carriage return.  A number has no leading zero, and digits on both sides of its
     point; a surrogate pair may be written by two escapes, half of one stands for no text.
-/
import Redline.Json.Value
import Redline.Text.Hexadecimal
import Redline.Text.Numeral

namespace Redline.Json

/-- A token: a bracket, a separator, or a value without parts. -/
inductive Token where
  | openArray
  | closeArray
  | openObject
  | closeObject
  | comma
  | colon
  | scalar (value : Json)

/-! ## Writing -/

/-- The lower-case hexadecimal digit of `n`. -/
def hexDigit (n : Nat) : Char :=
  Nat.digitChar (n % 16)

/-- How `c` is written inside a string. -/
def escapedChar (c : Char) : List Char :=
  match c with
  | '"' => ['\\', '"']
  | '\\' => ['\\', '\\']
  | '\x08' => ['\\', 'b']
  | '\t' => ['\\', 't']
  | '\n' => ['\\', 'n']
  | '\x0c' => ['\\', 'f']
  | '\r' => ['\\', 'r']
  | c =>
    if c.toNat < 0x20 then ['\\', 'u', '0', '0', hexDigit (c.toNat / 16), hexDigit c.toNat]
    else [c]

/-- `s` as a string of JSON. -/
def writeText (s : String) : List Char :=
  '"' :: s.toList.flatMap escapedChar ++ ['"']

/-- The written form of a token; a value with parts has none. -/
def Token.write : Token → List Char
  | .openArray => ['[']
  | .closeArray => [']']
  | .openObject => ['\x7b']
  | .closeObject => ['\x7d']
  | .comma => [',']
  | .colon => [':']
  | .scalar (.bool true) => "true".toList
  | .scalar (.bool false) => "false".toList
  | .scalar (.number n) => Text.decimal n
  | .scalar (.otherNumber literal) => literal.toList
  | .scalar (.text s) => writeText s
  | .scalar (.brokenText raw) => '"' :: raw.toList ++ ['"']
  | .scalar _ => "null".toList

/-! ## Reading a string -/

/-- The character that `c` stands for behind a backslash. -/
def unescaped? : Char → Option Char
  | '"' => some '"'
  | '\\' => some '\\'
  | '/' => some '/'
  | 'b' => some '\x08'
  | 'f' => some '\x0c'
  | 'n' => some '\n'
  | 'r' => some '\r'
  | 't' => some '\t'
  | _ => none

/-- The code units that stand between the quotes of a string, behind those in `read`, which holds
    the last unit first.  A control character has to be escaped. -/
def units? (read : List Nat) : List Char → Option (List Nat)
  | [] => some read.reverse
  | ['\\'] => none
  | '\\' :: 'u' :: a :: b :: c :: d :: rest =>
    match Text.hexNumber? [a, b, c, d] with
    | some n => units? (n :: read) rest
    | none => none
  | '\\' :: c :: rest =>
    match unescaped? c with
    | some e => units? (e.toNat :: read) rest
    | none => none
  | c :: rest => if c.toNat < 0x20 then none else units? (c.toNat :: read) rest

/-- Whether a code unit is the first half of a pair. -/
def isHighSurrogate (n : Nat) : Bool :=
  0xD800 ≤ n && n < 0xDC00

/-- Whether a code unit is the second half of a pair. -/
def isLowSurrogate (n : Nat) : Bool :=
  0xDC00 ≤ n && n < 0xE000

/-- The characters of code units, behind those in `read`, which holds the last one first; none if
    half of a pair stands alone. -/
def charsOfUnits? (read : List Char) : List Nat → Option (List Char)
  | [] => some read.reverse
  | [n] =>
    if isHighSurrogate n || isLowSurrogate n then none else some (Char.ofNat n :: read).reverse
  | n :: m :: rest =>
    if isHighSurrogate n then
      if isLowSurrogate m then
        charsOfUnits?
          (Char.ofNat (0x10000 + 0x400 * (n - 0xD800) + (m - 0xDC00)) :: read) rest
      else none
    else if isLowSurrogate n then none
    else charsOfUnits? (Char.ofNat n :: read) (m :: rest)

/-- The string with `raw` between its quotes. -/
def stringOfRaw? (raw : List Char) : Option Json := do
  let units ← units? [] raw
  match charsOfUnits? [] units with
  | some cs => return .text (String.ofList cs)
  | none => return .brokenText (String.ofList raw)

/-! ## Reading a number or a word -/

/-- `cs` behind one or more digits at its start. -/
def afterDigits? (cs : List Char) : Option (List Char) :=
  if cs.takeWhile Char.isDigit = [] then none else some (cs.dropWhile Char.isDigit)

/-- `cs` behind the digits of a whole number: a zero, or digits that start with no zero. -/
def afterWhole? : List Char → Option (List Char)
  | '0' :: rest => some rest
  | cs => afterDigits? cs

/-- `cs` behind a point with digits, if there is a point. -/
def afterFraction? : List Char → Option (List Char)
  | '.' :: rest => afterDigits? rest
  | cs => some cs

/-- `cs` behind one sign, if there is one. -/
def afterSign : List Char → List Char
  | '+' :: rest => rest
  | '-' :: rest => rest
  | cs => cs

/-- `cs` behind an exponent, if there is one. -/
def afterExponent? : List Char → Option (List Char)
  | 'e' :: rest => afterDigits? (afterSign rest)
  | 'E' :: rest => afterDigits? (afterSign rest)
  | cs => some cs

/-- Whether `cs` is a number, from its whole part on. -/
def isUnsigned (cs : List Char) : Bool :=
  (do afterExponent? (← afterFraction? (← afterWhole? cs))) == some []

/-- The value that a number or a word writes. -/
def scalarOfWord? (cs : List Char) : Option Json :=
  if cs = "null".toList then some .null
  else if cs = "true".toList then some (.bool true)
  else if cs = "false".toList then some (.bool false)
  else if afterWhole? cs = some [] then some (.number (Text.digitsFrom 0 cs))
  else match cs with
    | '-' :: rest => if isUnsigned rest then some (.otherNumber (String.ofList cs)) else none
    | _ => if isUnsigned cs then some (.otherNumber (String.ofList cs)) else none

/-! ## Reading tokens -/

/-- Whether `c` may stand between tokens. -/
def isSpace (c : Char) : Bool :=
  c = ' ' || c = '\t' || c = '\n' || c = '\r'

/-- Whether `c` may be part of a number or a word. -/
def isWordChar (c : Char) : Bool :=
  c.isAlphanum || c = '+' || c = '-' || c = '.'

/-- The token that is one character. -/
def Token.ofChar? : Char → Option Token
  | '[' => some .openArray
  | ']' => some .closeArray
  | '\x7b' => some .openObject
  | '\x7d' => some .closeObject
  | ',' => some .comma
  | ':' => some .colon
  | _ => none

/-- Where a reader stands: between tokens, or inside a word or a string, behind a backslash or
    not, of which it has read some characters, kept with the last one first. -/
inductive Scan where
  | between
  | word (read : List Char)
  | string (read : List Char)
  | escape (read : List Char)

/-- What a character between tokens starts, and the tokens that it completes. -/
def Scan.start (done : List Token) (c : Char) : Option (Scan × List Token) :=
  if isSpace c then some (.between, done)
  else if c = '"' then some (.string [], done)
  else if isWordChar c then some (.word [c], done)
  else match Token.ofChar? c with
    | some t => some (.between, t :: done)
    | none => none

/-- One character further; `done` holds the tokens that are complete, the last one first. -/
def Scan.step (done : List Token) (c : Char) : Scan → Option (Scan × List Token)
  | .between => Scan.start done c
  | .word read =>
    if isWordChar c then some (.word (c :: read), done)
    else match scalarOfWord? read.reverse with
      | some value => Scan.start (.scalar value :: done) c
      | none => none
  | .string read =>
    if c = '"' then
      match stringOfRaw? read.reverse with
      | some value => some (.between, .scalar value :: done)
      | none => none
    else if c = '\\' then some (.escape (c :: read), done)
    else some (.string (c :: read), done)
  | .escape read => some (.string (c :: read), done)

/-- The tokens of a text that ends here. -/
def Scan.finish (done : List Token) : Scan → Option (List Token)
  | .between => some done.reverse
  | .word read => (scalarOfWord? read.reverse).map fun value => (.scalar value :: done).reverse
  | .string _ => none
  | .escape _ => none

/-- The tokens of the rest of a text. -/
def Scan.run (s : Scan) (done : List Token) : List Char → Option (List Token)
  | [] => s.finish done
  | c :: rest =>
    match s.step done c with
    | some (s, done) => s.run done rest
    | none => none

/-- The tokens of a text. -/
def tokens? (cs : List Char) : Option (List Token) :=
  Scan.between.run [] cs

end Redline.Json
