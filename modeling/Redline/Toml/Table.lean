/-
  Putting TOML tables together.

  1. **Pairs** — a key with one part names a value in the table at hand.  A dotted key leads
     through further tables: those that dotted keys have made, which it makes where they are
     missing, and those that are implied by headers.  A value can only be put into the table at
     hand or into one that a dotted key has made, and only under a name that is free.
  2. **Headers** — a header leads through any tables that are not written between braces, and
     through the last element of an array of tables; it implies those that are missing.  A table
     opens at a name that is free or implied, an element of an array at a name that is free or
     names such an array.
-/
import Redline.Toml.Value

namespace Redline.Toml

namespace Members

/-- `elements` with its last one changed; none if there is none. -/
def changeLast? (change : Members → Option Members) (elements : List Members) :
    Option (List Members) := do
  let last ← elements.getLast?
  return elements.dropLast ++ [← change last]

/-- `ms` with the value `v` at `path`; `isOpen` says whether a value can be put into `ms` itself. -/
def putPair? (v : Toml) (isOpen : Bool) (ms : Members) : List String → Option Members
  | [] => none
  | [key] => if isOpen ∧ (ms.lookup key).isNone then some (ms.put key v) else none
  | key :: path =>
    match ms.lookup key with
    | none => do return ms.put key (.table .dotted (← putPair? v true [] path))
    | some (.table .dotted inner) => do
      return ms.put key (.table .dotted (← putPair? v true inner path))
    | some (.table .implied inner) => do
      return ms.put key (.table .implied (← putPair? v false inner path))
    | some (.tables elements) => do
      return ms.put key (.tables (← changeLast? (putPair? v false · path) elements))
    | some _ => none

/-- `ms` with all the pairs. -/
def putPairs? (ms : Members) (pairs : List (List String × Toml)) : Option Members :=
  pairs.foldlM (fun ms (path, v) => putPair? v true ms path) ms

/-- `ms` with the table that `path` leads to changed. -/
def changeAt? (change : Members → Option Members) (ms : Members) : List String → Option Members
  | [] => change ms
  | key :: path =>
    match ms.lookup key with
    | none => do return ms.put key (.table .implied (← changeAt? change [] path))
    | some (.table .inline _) => none
    | some (.table origin inner) => do
      return ms.put key (.table origin (← changeAt? change inner path))
    | some (.tables elements) => do
      return ms.put key (.tables (← changeLast? (changeAt? change · path) elements))
    | some _ => none

/-- `ms` with a table under `key` that has its own header and the given pairs. -/
def openTable? (key : String) (pairs : List (List String × Toml)) (ms : Members) :
    Option Members :=
  match ms.lookup key with
  | none => do return ms.put key (.table .header (← putPairs? [] pairs))
  | some (.table .implied inner) => do
    return ms.put key (.table .header (← putPairs? inner pairs))
  | some _ => none

/-- `ms` with one more element of the array of tables under `key`. -/
def openElement? (key : String) (pairs : List (List String × Toml)) (ms : Members) :
    Option Members :=
  match ms.lookup key with
  | none => do return ms.put key (.tables [← putPairs? [] pairs])
  | some (.tables elements) => do
    return ms.put key (.tables (elements ++ [← putPairs? [] pairs]))
  | some _ => none

end Members

/-! ## Sections -/

/-- What a header opens. -/
inductive Header where
  | table (path : List String)
  | element (path : List String)

/-- A header and the pairs below it. -/
structure Section where
  header : Header
  pairs : List (List String × Toml)

/-- `ms` with the table that a section describes. -/
def Members.putSection? (ms : Members) (s : Section) : Option Members :=
  match s.header with
  | .table path => do
    Members.changeAt? (Members.openTable? (← path.getLast?) s.pairs) ms path.dropLast
  | .element path => do
    Members.changeAt? (Members.openElement? (← path.getLast?) s.pairs) ms path.dropLast

end Redline.Toml
