/-
  The catalogue of a list of entries.

  * `tagCounts` — every name of a tag, in the order of code points, with the number of entries that
    carry it; versions do not matter, nor does a name that an entry carries twice.
  * `sortByCount` — the most used first; what is used equally often keeps its order.
  * `categoryPaths` — every category path that is not empty, once, in the order of its names.
-/
import Redline.Store.Basic

namespace Redline

/-- The name of a tag and how many entries carry it. -/
structure TagCount where
  name : String
  count : Nat
deriving DecidableEq, Repr

namespace Catalog

/-- `xs`, in ascending order, with `x`; an element that is there already is not added. -/
def insertOnce {α : Type} [LT α] [DecidableLT α] (x : α) : List α → List α
  | [] => [x]
  | y :: ys =>
    if x < y then x :: y :: ys
    else if y < x then y :: insertOnce x ys
    else y :: ys

/-- The elements of `xs` in strictly ascending order. -/
def ascending {α : Type} [LT α] [DecidableLT α] (xs : List α) : List α :=
  xs.foldr insertOnce []

/-- The names of the tags of an entry, each once. -/
def tagNames (e : Entry) : List String :=
  ascending e.document.metadata.tagNames

/-- The tags of the entries, by name. -/
def tagCounts (es : List Entry) : List TagCount :=
  let used := es.flatMap tagNames
  (ascending used).map fun name => ⟨name, used.count name⟩

/-- The tags `ts`, the most used first. -/
def sortByCount (ts : List TagCount) : List TagCount :=
  ts.mergeSort fun a b => b.count ≤ a.count

/-- The category paths of the entries, each once. -/
def categoryPaths (es : List Entry) : List (List Category) :=
  let paths := es.map fun e => e.document.metadata.categoryNames
  (ascending (paths.filter (· ≠ []))).map fun path => path.map fun name => ⟨name⟩

end Catalog

namespace DocumentStore

variable {m : Type → Type} [Monad m]

/-- The tags of the entries of a store, by name. -/
def tagCounts (s : DocumentStore m) : ExceptT StoreError m (List TagCount) := do
  return Catalog.tagCounts (← s.list)

/-- The category paths of the entries of a store. -/
def categoryPaths (s : DocumentStore m) : ExceptT StoreError m (List (List Category)) := do
  return Catalog.categoryPaths (← s.list)

end DocumentStore

end Redline
