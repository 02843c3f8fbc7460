/-
  TOML values.

  A table is a list of members with different names.  It remembers how it came to be, since that
  decides what may still be added to it (`TableOrigin`).  Numbers with a fraction, dates and times
  are kept as they are written.
-/

namespace Redline

/-- How a table came to be. -/
inductive TableOrigin where
  /-- Written between braces; complete. -/
  | inline
  /-- Opened by a header of its own. -/
  | header
  /-- Named on the way to another table, by a header. -/
  | implied
  /-- Named on the way to a value, by a dotted key. -/
  | dotted
deriving DecidableEq, Repr

/-- A TOML value. -/
inductive Toml where
  | text (s : String)
  | integer (n : Int)
  | float (literal : String)
  | boolean (b : Bool)
  | moment (literal : String)
  | array (items : List Toml)
  | table (origin : TableOrigin) (members : List (String × Toml))
  | tables (elements : List (List (String × Toml)))

namespace Toml

/-- The members of a table. -/
abbrev Members := List (String × Toml)

/-- `ms` with `v` under `key`, in place of what was there. -/
def Members.put (ms : Members) (key : String) (v : Toml) : Members :=
  (key, v) :: ms.filter fun m => m.1 ≠ key

/-- The text, of a string. -/
def text? : Toml → Option String
  | .text s => some s
  | _ => none

/-- The truth value, of `true` and `false`. -/
def boolean? : Toml → Option Bool
  | .boolean b => some b
  | _ => none

/-- The number, of an integer that is not negative. -/
def natural? : Toml → Option Nat
  | .integer (.ofNat n) => some n
  | _ => none

end Toml

end Redline
