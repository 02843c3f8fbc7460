/-
  Writing JSON.

  `tokens` lists the tokens of a value in order.  The compact form is the written forms of the
  tokens, one after the other.  The indented form has each item and each member on a line of its
  own, two spaces further in than the brackets around it, and a space behind each colon; an array
  or an object without parts stays on its line.
-/
import Redline.Json.Token

namespace Redline.Json

/-! ## Tokens -/

mutual

/-- The tokens of a value. -/
def tokens : Json → List Token
  | .array items => .openArray :: itemTokens items ++ [.closeArray]
  | .object members => .openObject :: memberTokens members ++ [.closeObject]
  | .null => [.scalar .null]
  | .bool b => [.scalar (.bool b)]
  | .number n => [.scalar (.number n)]
  | .otherNumber literal => [.scalar (.otherNumber literal)]
  | .text s => [.scalar (.text s)]
  | .brokenText raw => [.scalar (.brokenText raw)]
  | .brokenObject => [.openObject, .closeObject]
termination_by structural j => j

/-- The tokens of the items of an array. -/
def itemTokens : List Json → List Token
  | [] => []
  | j :: js => j.tokens ++ itemTailTokens js
termination_by structural js => js

/-- The tokens of further items, each behind a comma. -/
def itemTailTokens : List Json → List Token
  | [] => []
  | j :: js => .comma :: j.tokens ++ itemTailTokens js
termination_by structural js => js

/-- The tokens of the members of an object. -/
def memberTokens : List (String × Json) → List Token
  | [] => []
  | m :: ms => oneMemberTokens m ++ memberTailTokens ms
termination_by structural ms => ms

/-- The tokens of further members, each behind a comma. -/
def memberTailTokens : List (String × Json) → List Token
  | [] => []
  | m :: ms => .comma :: oneMemberTokens m ++ memberTailTokens ms
termination_by structural ms => ms

/-- The tokens of one member. -/
def oneMemberTokens : String × Json → List Token
  | (name, j) => .scalar (.text name) :: .colon :: j.tokens
termination_by structural m => m

end

/-- The compact form of a value. -/
def compactChars (j : Json) : List Char :=
  j.tokens.flatMap Token.write

/-- The compact form of a value. -/
def compact (j : Json) : String :=
  String.ofList j.compactChars

/-! ## The indented form -/

/-- A new line, `depth` levels in. -/
def newLine (depth : Nat) : List Char :=
  '\n' :: List.replicate (2 * depth) ' '

mutual

/-- The indented form of a value that stands `depth` levels in. -/
def indentedChars (depth : Nat) : Json → List Char
  | .array [] => ['[', ']']
  | .array (j :: js) =>
    ['['] ++ indentedItems (depth + 1) (j :: js) ++ newLine depth ++ [']']
  | .object [] => ['\x7b', '\x7d']
  | .object (m :: ms) =>
    ['\x7b'] ++ indentedMembers (depth + 1) (m :: ms) ++ newLine depth ++ ['\x7d']
  | .null => Token.write (.scalar .null)
  | .bool b => Token.write (.scalar (.bool b))
  | .number n => Token.write (.scalar (.number n))
  | .otherNumber literal => Token.write (.scalar (.otherNumber literal))
  | .text s => Token.write (.scalar (.text s))
  | .brokenText raw => Token.write (.scalar (.brokenText raw))
  | .brokenObject => ['\x7b', '\x7d']
termination_by structural j => j

/-- The items, each on a line of its own. -/
def indentedItems (depth : Nat) : List Json → List Char
  | [] => []
  | j :: js => newLine depth ++ j.indentedChars depth ++ indentedItemTail depth js
termination_by structural js => js

/-- Further items, each behind a comma and on a line of its own. -/
def indentedItemTail (depth : Nat) : List Json → List Char
  | [] => []
  | j :: js => [','] ++ newLine depth ++ j.indentedChars depth ++ indentedItemTail depth js
termination_by structural js => js

/-- The members, each on a line of its own. -/
def indentedMembers (depth : Nat) : List (String × Json) → List Char
  | [] => []
  | m :: ms => newLine depth ++ indentedMember depth m ++ indentedMemberTail depth ms
termination_by structural ms => ms

/-- Further members, each behind a comma and on a line of its own. -/
def indentedMemberTail (depth : Nat) : List (String × Json) → List Char
  | [] => []
  | m :: ms =>
    [','] ++ newLine depth ++ indentedMember depth m ++ indentedMemberTail depth ms
termination_by structural ms => ms

/-- One member: its name, a colon and a space, its value. -/
def indentedMember (depth : Nat) : String × Json → List Char
  | (name, j) => writeText name ++ [':', ' '] ++ j.indentedChars depth
termination_by structural m => m

end

/-- The indented form of a value. -/
def indented (j : Json) : String :=
  String.ofList (j.indentedChars 0)

end Redline.Json
