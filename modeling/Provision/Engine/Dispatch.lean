import Provision.Engine.Dependency

/-! # Dispatch

A call is dispatched in a fixed order. An unknown action is refused before anything is locked.
Under the lock of the object its existence and kind are checked, and whether anything relies on
an object that is to be deleted. Then the handler runs. What a handler fails with goes into the
response; a create that failed gives up what it had reserved, and a delete that succeeded removes
the record. -/

namespace Provision

open Run

namespace Resource

/-- The checks in front of the handler. -/
def checkTarget (resource : Resource) (action : String) (flags : ActionFlags) (key : ObjectKey) :
    Run EngineError Unit := do
  let present ← demand (.has key)
  if present && flags.requiresNew then
    report .objectExists
    fail (.objectExists key)
  else if !present && !flags.requiresNew then
    report .objectMissing
    fail (.objectDoesNotExist key)
  else
    if present then
      let record ← demand (.get key)
      if record.kind ≠ resource.name then
        report (.otherKind record.kind)
        fail (.objectInvalidType key resource.name record.kind)
    if action = deleteAction then
      let masters ← demand (.masters key)
      if !masters.isEmpty then
        report .deleteRefused
        fail (.objectInUse key)

/-- What follows a handler that failed. -/
def afterFailure (flags : ActionFlags) (key : ObjectKey) (error : ActionError) :
    Run EngineError Response := do
  report (.actionFailed error)
  if flags.requiresNew then
    if !(← demand (.has key)) then
      let released ← demand (.release key)
      if !released.isEmpty then report (.reservationsReleased released.length)
  return { error := error.message }

/-- What follows a handler that succeeded. -/
def afterSuccess (action : String) (key : ObjectKey) (output : RawJson) :
    Run EngineError Response := do
  if action = deleteAction then
    demand (.remove key)
    report .objectDeleted
  return { payload := some output }

/-- Dispatches a request against an object. `run` runs the program of the handler. -/
def dispatch (resource : Resource) (run : Program → Run ActionError RawJson) (key : ObjectKey)
    (request : Request) : Run EngineError Response :=
  match resource.action? request.action with
  | none => fail (.actionNotFound request.action)
  | some action =>
    let span : Span := ⟨resource.name, request.action, key⟩
    let mode := action.flags.mode
    within (.dispatch span mode) <|
      guarded resource.guards key mode do
        resource.checkTarget request.action action.flags key
        let handler := run (action.handler key request.payload)
        match ← attempt (within (.handler span mode) handler) with
        | .ok output => afterSuccess request.action key output
        | .error error => afterFailure action.flags key error

end Resource

/-- Runs a program; `nested` makes the calls in it. -/
def Program.run (engine : Engine) (nested : Call → Run EngineError Response) :
    Program → Run ActionError RawJson
  | .done outcome => ofExcept outcome
  | .panic message => panicking message
  | .note told next => do
    mark (.noted told)
    next.run engine nested
  | .store query next => do
    let answer ← ask query
    (next answer).run engine nested
  | .look key next => do
    let node ← get
    (next (node.guards.view key.text)).run engine nested
  | .policy kind action next => (next (engine.policy? kind action)).run engine nested
  | .call request next => do
    let result ← attempt (nested request)
    (next result).run engine nested
  | .depend change master slave scope next => do
    let body := scope.run engine nested
    let outcome ← attempt <|
      match change with
      | .add => engine.addDependency master slave body
      | .remove => engine.removeDependency master slave body
    (next outcome).run engine nested

namespace Engine

/-- Dispatches a call to the resource registered for its kind. Calls may be nested in it up to a
    depth. -/
def call (engine : Engine) : Nat → Call → Run EngineError Response
  | 0, _ => throw .tooDeep
  | depth + 1, call =>
    match engine.resource? call.kind with
    | none => fail (.resourceNotFound call.kind)
    | some resource =>
      resource.dispatch (Program.run engine (engine.call depth)) call.key call.request

/-- Runs a program with calls nested up to a depth. -/
def run (engine : Engine) (depth : Nat) (program : Program) : Run ActionError RawJson :=
  program.run engine (engine.call depth)

end Engine

end Provision
