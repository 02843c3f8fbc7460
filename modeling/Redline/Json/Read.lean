/-
  Reading JSON.

  The tokens of a text are read one by one, with a stack of the arrays and objects that are open.
  After each token the reader knows what has to follow (`Expected`).  A text is read when its
  tokens leave one value and an empty stack; there is no other way to succeed, so a text with a
  comma too many or with two values is refused.

  The name of a member may be any string.  An object with a name that stands for no text is a
  `brokenObject`, once it is closed.
-/
import Redline.Json.Token

namespace Redline.Json

/-- A member whose name is a text, or none. -/
abbrev RawMember := Option String × Json

/-- An array or an object that is open, with its complete parts, the last one first. -/
inductive Frame where
  | array (items : List Json)
  | object (members : List RawMember)
  | member (members : List RawMember) (name? : Option String)

/-- What has to follow. -/
inductive Expected where
  | value
  | itemOrClose
  | name
  | nameOrClose
  | colon (name? : Option String)
  | afterValue (j : Json)

/-- How far a text has been read. -/
structure Reader where
  stack : List Frame
  expected : Expected

/-- The reader of a new text. -/
def Reader.start : Reader := ⟨[], .value⟩

/-- One token further, where a value has to follow. -/
def Reader.value (stack : List Frame) : Token → Option Reader
  | .scalar j => some ⟨stack, .afterValue j⟩
  | .openArray => some ⟨.array [] :: stack, .itemOrClose⟩
  | .openObject => some ⟨.object [] :: stack, .nameOrClose⟩
  | _ => none

/-- The name that a token writes; no text if it is a broken one. -/
def Token.name? : Token → Option (Option String)
  | .scalar (.text s) => some (some s)
  | .scalar (.brokenText _) => some none
  | _ => none

/-- The object with the given members, the last one first. -/
def ofRawMembers (members : List RawMember) : Json :=
  match members.reverse.mapM fun (name?, j) => name?.map (·, j) with
  | some members => .object members
  | none => .brokenObject

/-- One token further. -/
def Reader.step (r : Reader) (t : Token) : Option Reader :=
  match r.expected, r.stack, t with
  | .value, stack, t => Reader.value stack t
  | .itemOrClose, .array _ :: stack, .closeArray => some ⟨stack, .afterValue (.array [])⟩
  | .itemOrClose, stack, t => Reader.value stack t
  | .nameOrClose, .object _ :: stack, .closeObject => some ⟨stack, .afterValue (.object [])⟩
  | .nameOrClose, stack, t => t.name?.map fun name? => ⟨stack, .colon name?⟩
  | .name, stack, t => t.name?.map fun name? => ⟨stack, .colon name?⟩
  | .colon name?, .object members :: stack, .colon => some ⟨.member members name? :: stack, .value⟩
  | .afterValue j, .array items :: stack, .comma => some ⟨.array (j :: items) :: stack, .value⟩
  | .afterValue j, .array items :: stack, .closeArray =>
    some ⟨stack, .afterValue (.array (j :: items).reverse)⟩
  | .afterValue j, .member members name? :: stack, .comma =>
    some ⟨.object ((name?, j) :: members) :: stack, .name⟩
  | .afterValue j, .member members name? :: stack, .closeObject =>
    some ⟨stack, .afterValue (ofRawMembers ((name?, j) :: members))⟩
  | _, _, _ => none

/-- The value of a text that ends here. -/
def Reader.finish (r : Reader) : Option Json :=
  match r with
  | ⟨[], .afterValue j⟩ => some j
  | _ => none

/-- The value of the tokens that are left. -/
def Reader.run (r : Reader) : List Token → Option Json
  | [] => r.finish
  | t :: ts =>
    match r.step t with
    | some r => r.run ts
    | none => none

/-- The value that a text writes. -/
def readChars? (cs : List Char) : Option Json := do
  Reader.start.run (← tokens? cs)

/-- The value that a text writes. -/
def read? (s : String) : Option Json :=
  readChars? s.toList

end Redline.Json
