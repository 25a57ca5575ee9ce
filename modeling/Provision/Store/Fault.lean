import Provision.Store.Call

/-! # Failing stores

A store may fail, or answer wrongly whether an object exists, on some of the calls made to it. A
plan says which calls of each operation go wrong, counted from the moment the plan was made; a
call that goes wrong changes nothing. -/

namespace Provision

/-- How a call goes wrong. -/
inductive Fault where
  /-- The backend does not answer. -/
  | unavailable
  /-- The backend fails, and tells why. -/
  | failing (reason : String)
  /-- The store claims to have nothing under the key. -/
  | missing
  /-- The store claims that the object exists, or that it does not; any other operation is
      answered as by a backend that is unavailable. -/
  | claim (answer : Bool)
  deriving DecidableEq, Repr

namespace Fault

/-- The failure of a backend that does not answer an operation. -/
def outage (operation : StoreOperation) : StoreError :=
  .backend (operation.name ++ ": backend unavailable")

/-- What a call that goes wrong is answered with. -/
def answer (fault : Fault) : (call : StoreCall) → Except StoreError call.Answer
  | .has key =>
    match fault with
    | unavailable => .error (outage .has)
    | failing reason => .error (.backend reason)
    | missing => .error (.notFound key)
    | claim answer => .ok answer
  | call =>
    match fault with
    | failing reason => .error (.backend reason)
    | missing => .error (.notFound call.subject)
    | _ => .error (outage call.operation)

end Fault

/-- Which calls go wrong. -/
structure FaultPlan where
  /-- What happens to the n-th call of an operation. -/
  schedule : StoreOperation → Nat → Option Fault
  /-- How many calls of an operation there have been. -/
  made : StoreOperation → Nat

namespace FaultPlan

/-- The plan in which nothing goes wrong. -/
def none : FaultPlan := ⟨fun _ _ => .none, fun _ => 0⟩

/-- Plans an operation anew: the first `skip` calls pass, of those after them the first `times`
    go wrong, or all of them if no number is given. -/
def plan (faults : FaultPlan) (operation : StoreOperation) (fault : Fault) (skip : Nat)
    (times : Option Nat) : FaultPlan where
  schedule op n :=
    if op = operation then
      if n < skip then .none
      else
        match times with
        | .none => some fault
        | some k => if n < skip + k then some fault else .none
    else faults.schedule op n
  made op := if op = operation then 0 else faults.made op

/-- What happens to the next call of an operation. -/
def next (faults : FaultPlan) (operation : StoreOperation) : Option Fault :=
  faults.schedule operation (faults.made operation)

/-- The plan after a call of an operation. -/
def count (faults : FaultPlan) (operation : StoreOperation) : FaultPlan :=
  { faults with
    made := fun op => if op = operation then faults.made op + 1 else faults.made op }

end FaultPlan

end Provision
