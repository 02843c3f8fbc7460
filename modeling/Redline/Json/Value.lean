/-
  JSON values.

  An object is a list of members: it keeps their order, and it keeps members of the same name, so
  that whoever reads a record can judge both.  Three constructors hold what this library never
  writes but has to step over when it reads:

  * `otherNumber` — a number with a sign, a fraction or an exponent, as it was written;
  * `brokenText` — a string with half of a surrogate pair, which stands for no text; it holds what
    was written between the quotes;
  * `brokenObject` — an object with such a string among its names; nothing can be read from it.
-/
import Redline.Json.Number

namespace Redline

/-- A JSON value. -/
inductive Json where
  | null
  | bool (b : Bool)
  | number (n : Nat)
  | otherNumber (literal : String)
  | text (s : String)
  | brokenText (raw : String)
  | array (items : List Json)
  | object (members : List (String × Json))
  | brokenObject

namespace Json

/-! ## Reading scalars and lists -/

/-- The text, of a string. -/
def text? : Json → Option String
  | .text s => some s
  | _ => none

/-- The truth value, of `true` and `false`. -/
def bool? : Json → Option Bool
  | .bool b => some b
  | _ => none

/-- The number, of a natural number. -/
def number? : Json → Option Nat
  | .number n => some n
  | _ => none

/-- The items, each read by `read`, of an array. -/
def list? {α : Type} (read : Json → Option α) : Json → Option (List α)
  | .array items => items.mapM read
  | _ => none

/-- The word, of a string or of an object that has it as its only name, with the value `null`. -/
def word? : Json → Option String
  | .text s => some s
  | .object [(s, .null)] => some s
  | _ => none

/-! ## Whole values -/

mutual

/-- Whether the value can be held as a whole: every string stands for a text, every number can be
    held, and at most `depth` arrays and objects stand inside each other. -/
def isHeld : Nat → Json → Bool
  | _, .brokenText _ => false
  | _, .brokenObject => false
  | _, .otherNumber literal => isFiniteNumber literal.toList
  | _, .number n => isHeldNatural n
  | 0, .array _ => false
  | depth + 1, .array items => allHeld depth items
  | 0, .object _ => false
  | depth + 1, .object members => membersHeld depth members
  | _, .null => true
  | _, .bool _ => true
  | _, .text _ => true
termination_by structural _ j => j

/-- Whether `isHeld` holds of every item. -/
def allHeld : Nat → List Json → Bool
  | _, [] => true
  | depth, j :: js => j.isHeld depth && allHeld depth js
termination_by structural _ js => js

/-- Whether `isHeld` holds of every member. -/
def membersHeld : Nat → List (String × Json) → Bool
  | _, [] => true
  | depth, m :: ms => memberHeld depth m && membersHeld depth ms
termination_by structural _ ms => ms

/-- Whether `isHeld` holds of the value of a member. -/
def memberHeld : Nat → String × Json → Bool
  | depth, (_, j) => j.isHeld depth
termination_by structural _ m => m

end

mutual

/-- The value with the members of every object in the order of their names. -/
def sorted : Json → Json
  | .array items => .array (sortedItems items)
  | .object members => .object ((sortedMembers members).mergeSort fun a b => a.1 ≤ b.1)
  | .null => .null
  | .bool b => .bool b
  | .number n => .number n
  | .otherNumber literal => .otherNumber literal
  | .text s => .text s
  | .brokenText raw => .brokenText raw
  | .brokenObject => .brokenObject
termination_by structural j => j

/-- The items, each `sorted`. -/
def sortedItems : List Json → List Json
  | [] => []
  | j :: js => j.sorted :: sortedItems js
termination_by structural js => js

/-- The members, in their order, each with a `sorted` value. -/
def sortedMembers : List (String × Json) → List (String × Json)
  | [] => []
  | m :: ms => sortedMember m :: sortedMembers ms
termination_by structural ms => ms

/-- The member with a `sorted` value. -/
def sortedMember : String × Json → String × Json
  | (name, j) => (name, j.sorted)
termination_by structural m => m

end

end Json

end Redline
