import Provision.Envelope
import Provision.Event
import Provision.Guard.Table
import Provision.Store.Fault

/-! # The state of a node, and runs over it

A node has a store, which may fail, and the guards of its objects. A run changes a node, and
leaves behind a history of everything that was done: the frames it opened and closed, its calls to
the store, the events it reported and the notes that handlers made. A run may end with a value,
an error, or by coming to a halt: a panic, a lock that nobody will give up, or calls nested too
deep. However it ends, everything it holds is given back on the way out. -/

namespace Provision

/-- What a reservation does to the ledger. -/
inductive DependencyChange where
  | add
  | remove
  deriving DecidableEq, Repr

/-- Something that is under way. -/
inductive Frame where
  /-- A dispatch, from before it takes its object's lock until it has given it back. -/
  | dispatch (span : Span) (mode : LockMode)
  /-- The handler of a dispatch. -/
  | handler (span : Span) (mode : LockMode)
  /-- A dependency operation on a slave, from before it takes the lock until it has given it
      back. -/
  | dependency (change : DependencyChange) (slave : ObjectKey)
  /-- The scope of a dependency operation on a slave. -/
  | scope (change : DependencyChange) (slave : ObjectKey)
  deriving DecidableEq, Repr

/-- What a handler tells about its own run. -/
inductive Note where
  /-- A handler starts: its label, its object, how another caller would find the object, and the
      payload. -/
  | ran (label : String) (object : ObjectKey) (lock : GuardView) (payload : RawJson)
  /-- A scope starts: how another caller would find the slave. -/
  | scope (change : DependencyChange) (lock : GuardView)
  /-- A step failed and the handler goes on. -/
  | tried (error : ActionError)
  /-- A nested call ended. -/
  | called (result : Except EngineError Response)
  /-- A step was left out because it would wait for a lock. -/
  | blocked (key : ObjectKey)

/-- One entry of a history. -/
inductive Mark where
  | began (frame : Frame)
  | ended (frame : Frame)
  /-- A call to the store, and whether it went wrong as planned. -/
  | stored (call : StoreCall) (astray : Bool)
  | reported (event : Event)
  | noted (note : Note)

/-- Which table guards the objects of a resource. -/
inductive GuardScope where
  /-- The one table of the engine. -/
  | shared
  /-- The table of a resource that is not registered. Such a resource is called by itself, never
      from within another one. -/
  | own
  deriving DecidableEq, Repr

/-- The state of a node. -/
structure Node where
  store : MemoryStore := .empty
  faults : FaultPlan := .none
  /-- The guards of the engine. -/
  guards : GuardTable := .empty
  /-- The guards of the unregistered resource that is being called. -/
  ownGuards : GuardTable := .empty
  /-- Everything that was done, latest first. -/
  history : List Mark := []

namespace Node

/-- A node on which nothing has happened. -/
def empty : Node := {}

/-- The table of a scope. -/
def table (node : Node) : GuardScope → GuardTable
  | .shared => node.guards
  | .own => node.ownGuards

/-- Replaces the table of a scope. -/
def withTable (node : Node) (scope : GuardScope) (table : GuardTable) : Node :=
  match scope with
  | .shared => { node with guards := table }
  | .own => { node with ownGuards := table }

/-- Adds an entry to the history. -/
def marked (node : Node) (mark : Mark) : Node := { node with history := mark :: node.history }

section Tables

variable {node : Node} {scope other : GuardScope} {table : GuardTable}

@[simp] theorem store_withTable : (node.withTable scope table).store = node.store := by
  cases scope <;> rfl

@[simp] theorem faults_withTable : (node.withTable scope table).faults = node.faults := by
  cases scope <;> rfl

@[simp] theorem history_withTable : (node.withTable scope table).history = node.history := by
  cases scope <;> rfl

@[simp] theorem table_withTable : (node.withTable scope table).table scope = table := by
  cases scope <;> rfl

theorem table_withTable_of_ne (apart : scope ≠ other) :
    (node.withTable scope table).table other = node.table other := by
  cases scope <;> cases other <;> first | rfl | exact absurd rfl apart

@[simp] theorem table_marked {mark : Mark} : (node.marked mark).table scope = node.table scope := by
  cases scope <;> rfl

end Tables

/-- What the store reports about a call. -/
def reports (node : Node) : StoreCall → List Event
  | .remove key =>
    if node.store.hasRecord key && !(node.store.slavesOf key).isEmpty then
      [.dependenciesReleased key (node.store.slavesOf key).length]
    else []
  | _ => []

/-- Has the store carry out a call. -/
def carryOut (node : Node) (call : StoreCall) : Except StoreError call.Answer × Node :=
  let (answer, store) := node.store.answer call
  let history := ((node.reports call).map Mark.reported).reverse ++ node.history
  (answer, { node with store, history })

/-- What was done on a node since it was in an earlier state, in order. -/
def since (node earlier : Node) : List Mark :=
  (node.history.take (node.history.length - earlier.history.length)).reverse

end Node

/-- How a run ends without a value. -/
inductive Halt (ε : Type) where
  | error (error : ε)
  | panic (message : String)
  /-- The run would wait for a lock that it holds itself, or that nobody gives up meanwhile. -/
  | waits (key : ObjectKey)
  /-- Calls are nested deeper than the run allows. -/
  | tooDeep
  deriving DecidableEq, Repr

/-- The same end with another error. -/
def Halt.map {ε ε' : Type} (f : ε → ε') : Halt ε → Halt ε'
  | error e => error (f e)
  | panic message => panic message
  | waits key => waits key
  | tooDeep => tooDeep

/-- A run over a node. -/
abbrev Run (ε : Type) := ExceptT (Halt ε) (StateM Node)

namespace Run

variable {ε ε' α : Type}

/-- Ends a run with an error. -/
def fail (error : ε) : Run ε α := throw (.error error)

/-- Ends a run by a panic. -/
def panicking (message : String) : Run ε α := throw (.panic message)

/-- Adds an entry to the history. -/
def mark (entry : Mark) : Run ε Unit := modify (·.marked entry)

/-- Reports an event. -/
def report (event : Event) : Run ε Unit := mark (.reported event)

/-- A value, or a failed run. -/
def ofExcept : Except ε α → Run ε α
  | .ok value => pure value
  | .error error => fail error

/-- The same run with its error put into another type. -/
def mapError (f : ε → ε') (body : Run ε α) : Run ε' α := fun node =>
  match body node with
  | (.ok value, node) => (.ok value, node)
  | (.error halt, node) => (.error (halt.map f), node)

/-- Makes an error of a run its value; a run that comes to a halt is not held up. -/
def attempt (body : Run ε α) : Run ε' (Except ε α) := fun node =>
  match body node with
  | (.ok value, node) => (.ok (.ok value), node)
  | (.error (.error error), node) => (.ok (.error error), node)
  | (.error (.panic message), node) => (.error (.panic message), node)
  | (.error (.waits key), node) => (.error (.waits key), node)
  | (.error .tooDeep, node) => (.error .tooDeep, node)

/-- Does something to the node after a run, however it ended. -/
def ensuring (body : Run ε α) (after : Node → Node) : Run ε α := fun node =>
  match body node with
  | (result, node) => (result, after node)

/-- A run inside a frame. -/
def within (frame : Frame) (body : Run ε α) : Run ε α := do
  mark (.began frame)
  ensuring body (·.marked (.ended frame))

/-- A run that holds the lock of an object. The object's guard is entered before and exited
    after, the lock is given back in between. -/
def guarded (scope : GuardScope) (key : ObjectKey) (mode : LockMode) (body : Run ε α) :
    Run ε α := fun node =>
  let (guard, entered) := (node.table scope).enter key.text
  match entered.acquire? guard mode with
  | none => (.error (.waits key), node)
  | some (hold, held) =>
    let (result, node) := body (node.withTable scope held)
    match ((node.table scope).release hold).exit? guard.id with
    | some table => (result, node.withTable scope table)
    | none => (.error (.panic (GuardTable.invalidExit guard.id)), node)

/-- Asks the store. -/
def ask (call : StoreCall) : Run ε (Except StoreError call.Answer) := fun node =>
  let counted := { node with faults := node.faults.count call.operation }
  match node.faults.next call.operation with
  | some fault => (.ok (fault.answer call), counted.marked (.stored call true))
  | none =>
    let (answer, node) := (counted.marked (.stored call false)).carryOut call
    (.ok answer, node)

/-- Asks the store; a failure is one of the engine. -/
def demand (call : StoreCall) : Run EngineError call.Answer := do
  match ← ask call with
  | .ok answer => return answer
  | .error cause => fail (.store cause)

end Run

end Provision
