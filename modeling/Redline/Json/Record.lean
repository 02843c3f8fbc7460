/-
  Records in JSON.

  A record has a fixed list of field names.  It is read from an object whose members may come in
  any order: a member with an unknown name is passed over, a known name may stand only once.  It is
  also read from an array that gives the fields in order, with at least `least` of them.

  A field is required, optional — absent when it is missing or `null` — or has a default for when
  it is missing.
-/
import Redline.Json.Value
import Redline.Text.Numeral

namespace Redline.Json

/-- The fields of a record that are there. -/
structure Record where
  fields : List (String × Json)

/-- The record with the fields `names`, of which an array has to give the first `least`. -/
def record? (names : List String) (least : Nat) : Json → Option Record
  | .object members =>
    let known := members.filter fun m => names.contains m.1
    if (known.map Prod.fst).Nodup then some ⟨known⟩ else none
  | .array items =>
    if least ≤ items.length ∧ items.length ≤ names.length then some ⟨names.zip items⟩ else none
  | _ => none

namespace Record

variable {α : Type}

/-- The value of a field. -/
def get? (r : Record) (name : String) : Option Json :=
  r.fields.lookup name

/-- The value of a field that has to be there. -/
def required? (r : Record) (name : String) (read : Json → Option α) : Option α := do
  read (← r.get? name)

/-- The value of a field that may be missing or `null`. -/
def optional? (r : Record) (name : String) (read : Json → Option α) : Option (Option α) :=
  match r.get? name with
  | none => some none
  | some .null => some none
  | some j => (read j).map some

/-- The value of a field that is `default` when it is missing. -/
def getD? (r : Record) (name : String) (default : α) (read : Json → Option α) : Option α :=
  match r.get? name with
  | none => some default
  | some j => read j

end Record

/-- The 64-bit number, of a natural number that fits. -/
def count? : Json → Option Nat
  | .number n => if n ≤ Text.maxCount then some n else none
  | _ => none

/-- A text that may be absent, as a member that is left out then. -/
def textMember (name : String) (s : Option String) : List (String × Json) :=
  match s with
  | none => []
  | some s => [(name, .text s)]

end Redline.Json
