import Provision.Catalog.Resources
import Provision.Engine.Dispatch

/-! # Sessions

A session works on a node through its engine. It makes calls, reserves and releases dependencies,
holds guards of its own, and lets store operations fail. What would have to wait for a lock is not
begun. -/

namespace Provision

/-- A guard of the engine that a session has entered. -/
structure HeldGuard where
  guard : Guard
  /-- The lock taken through the guard, if one was. -/
  hold : Option Hold

/-- An engine at work on a node. -/
structure Session where
  engine : Engine
  /-- Resources that are not registered with the engine. -/
  alone : List Resource
  node : Node
  /-- The guards held, by slot. -/
  slots : List (Option HeldGuard) := []

/-- What comes of an operation, and the session after it. -/
abbrev Session.Result (ε α : Type) := Except (Halt ε) α × Session

namespace Session

/-- How deeply calls may be nested. -/
def nesting : Nat := 10000

/-- Assembles an engine of resources in turn. -/
def assemble (resources : List (Except String Resource)) : Except String Engine :=
  resources.foldlM (fun engine resource => do engine.withResource (← resource)) .empty

/-- Starts a session with these registered and unregistered resources. -/
def start (registered alone : List (Except String Resource)) : Except String Session := do
  let engine ← assemble registered
  let alone ← alone.mapM id
  return { engine, alone, node := Node.empty.marked (.reported (.engineReady engine.kinds)) }

/-- Carries out a run. -/
def perform {ε α : Type} (session : Session) (run : Run ε α) : Result ε α :=
  let (result, node) := run session.node
  (result, { session with node })

/-- Carries out a program. -/
def execute (session : Session) (program : Program) : Result ActionError RawJson :=
  session.perform (session.engine.run nesting program)

/-- How another caller would find an object now. -/
def view (session : Session) (key : ObjectKey) : GuardView := session.node.guards.view key.text

/-- Calls the engine. -/
def call (session : Session) (call : Call) : Result EngineError Response :=
  match session.engine.policy? call.kind call.request.action with
  | some flags =>
    if (session.view call.key).state.admits flags.mode then
      session.perform (session.engine.call nesting call)
    else (.error (.waits call.key), session)
  | none => session.perform (session.engine.call nesting call)

/-- Calls a resource that is not registered. -/
def callAlone (session : Session) (resource : Resource) (key : ObjectKey) (request : Request) :
    Result EngineError Response :=
  session.perform (resource.dispatch (session.engine.run nesting) key request)

/-- The kind that the scopes of a session's own dependency operations run under. -/
def scopeKind : String := "scope"

/-- What the scope of a dependency operation of a master runs on. -/
def scene (master : ObjectKey) : Scene := ⟨scopeKind, master, .null⟩

/-- Reserves or releases a dependency around the steps of a scope. -/
def depend (session : Session) (change : DependencyChange) (master slave : ObjectKey)
    (steps : List Step) : Result ActionError RawJson :=
  if (scene master).mustWait change slave (session.view slave) then
    (.error (.waits slave), session)
  else
    let body := Step.programOf (scene master) .null .done steps
    session.execute (.depend change master slave (Step.announced change slave body) .done)

/-- Begins a reservation: what is done before the lock of the slave is taken. -/
def resolve (session : Session) (master slave : ObjectKey) : Result ActionError Resource :=
  if (scene master).mustWait .add slave (session.view slave) then
    (.error (.waits slave), session)
  else session.perform (session.engine.resolve master slave)

/-- Goes on with a reservation that was begun, around an empty scope that tells nothing. -/
def addResolved (session : Session) (resource : Resource) (master slave : ObjectKey) :
    Result ActionError RawJson :=
  session.perform (Engine.addResolved resource master slave (pure .null))

/-- Reads the state of an object. -/
def current (session : Session) (kind : String) (key : ObjectKey) : Result ActionError RawJson :=
  session.execute <| (Catalog.workload kind).current key <|
    Program.orFail .engine fun state => .done (.ok (.ofValue state))

/-- Stores the state of an object. -/
def save (session : Session) (kind : String) (key : ObjectKey) (text : Bytes) :
    Result ActionError RawJson :=
  session.execute <| Step.storeState (Catalog.workload kind) key text fun result =>
    .done (result.map fun () => .null)

/-- Whether an object exists, as the engine's store answers. -/
def exists? (session : Session) (key : ObjectKey) : Except StoreError Bool × Session :=
  match session.perform (ε := Empty) (Run.ask (.has key)) with
  | (.ok answer, session) => (answer, session)
  | (.error _, session) => (.ok false, session)

/-- Has the store carry out a call, past everything that may go wrong with it. -/
def carryOut (session : Session) (call : StoreCall) : Except StoreError call.Answer × Session :=
  let (answer, node) := session.node.carryOut call
  (answer, { session with node })

/-- Enters the guard of an object and takes its lock in a mode, if one is given; tells whether
    that can be had now. -/
def hold (session : Session) (key : ObjectKey) (mode : Option LockMode) : Bool × Session :=
  let (guard, table) := session.node.guards.enter key.text
  let keep (hold : Option Hold) (table : GuardTable) : Session :=
    { session with
      node := { session.node with guards := table }
      slots := session.slots ++ [some ⟨guard, hold⟩] }
  match mode with
  | none => (true, keep none table)
  | some mode =>
    match table.acquire? guard mode with
    | some (hold, table) => (true, keep (some hold) table)
    | none => (false, session)

/-- Gives up the guard in a slot; tells whether it was held. -/
def release (session : Session) (slot : Nat) : Bool × Session :=
  match session.slots[slot]?.join with
  | none => (false, session)
  | some held =>
    let unlocked := held.hold.elim session.node.guards session.node.guards.release
    let table := (unlocked.exit? held.guard.id).getD unlocked
    (true,
      { session with
        node := { session.node with guards := table }
        slots := session.slots.set slot none })

/-- Plans how calls of a store operation go wrong. -/
def plan (session : Session) (operation : StoreOperation) (fault : Fault) (skip : Nat)
    (times : Option Nat) : Session :=
  { session with
    node := { session.node with faults := session.node.faults.plan operation fault skip times } }

/-- Lets all calls of the store pass again. -/
def clearFaults (session : Session) : Session :=
  { session with node := { session.node with faults := .none } }

/-- What was done since an earlier state of the session, in order. -/
def since (session earlier : Session) : List Mark := session.node.since earlier.node

end Session

end Provision
