/-
  Stores that fail by plan.

  A plan has a queue for each operation of a store.  A call takes the head of its queue: a fault
  fails the call before the store sees it; nothing, or an empty queue, lets the call through.
-/
import Redline.Store.Basic

namespace Redline

/-- A failure that a plan asks for. -/
inductive Fault where
  | readOnly
  | backend (text : String)
deriving DecidableEq, Repr

/-- The failure itself. -/
def Fault.error : Fault → StoreError
  | .readOnly => .readOnly
  | .backend text => .backend text

/-- What is to happen to the next calls of each operation. -/
structure FaultPlan where
  fetch : List (Option Fault) := []
  save : List (Option Fault) := []
  list : List (Option Fault) := []
  delete : List (Option Fault) := []
deriving DecidableEq, Repr

/-- One queue of a plan. -/
structure FaultQueue where
  get : FaultPlan → List (Option Fault)
  set : List (Option Fault) → FaultPlan → FaultPlan

namespace FaultPlan

/-- The queue of the calls of `fetch`. -/
def fetchQueue : FaultQueue := ⟨FaultPlan.fetch, fun q p => { p with fetch := q }⟩

/-- The queue of the calls of `save`. -/
def saveQueue : FaultQueue := ⟨FaultPlan.save, fun q p => { p with save := q }⟩

/-- The queue of the calls of `list`. -/
def listQueue : FaultQueue := ⟨FaultPlan.list, fun q p => { p with list := q }⟩

/-- The queue of the calls of `delete`. -/
def deleteQueue : FaultQueue := ⟨FaultPlan.delete, fun q p => { p with delete := q }⟩

/-- The fault for the next call in a queue, and the plan for the calls after it. -/
def next (p : FaultPlan) (queue : FaultQueue) : Option Fault × FaultPlan :=
  match queue.get p with
  | [] => (none, p)
  | fault :: rest => (fault, queue.set rest p)

end FaultPlan

variable {m : Type → Type} [Monad m]

/-- A call of a store, unless the plan fails it. -/
def guarded {α : Type} (queue : FaultQueue) (call : ExceptT StoreError m α) :
    ExceptT StoreError (StateT FaultPlan m) α :=
  ExceptT.mk fun plan =>
    match plan.next queue with
    | (some fault, plan) => return (.error fault.error, plan)
    | (none, plan) => return (← call.run, plan)

/-- The store `s`, failing by plan. -/
def DocumentStore.withFaults (s : DocumentStore m) : DocumentStore (StateT FaultPlan m) where
  fetch id := guarded FaultPlan.fetchQueue (s.fetch id)
  save id? document := guarded FaultPlan.saveQueue (s.save id? document)
  list := guarded FaultPlan.listQueue s.list
  delete id := guarded FaultPlan.deleteQueue (s.delete id)

end Redline
