import Provision.Flags
import Provision.Node

/-! # Programs of handlers

A handler is a program over a few operations: asking the store, looking at locks, calling the
engine, and reserving or releasing a dependency around a scope. A program is a tree: each
operation is followed by a program for every answer it may get. A handler is thus any
deterministic finite program. -/

namespace Provision

/-- A call to the engine. -/
structure Call where
  user : UInt32
  space : String
  kind : String
  request : Request
  deriving DecidableEq, Repr

/-- The object that a call is about. -/
def Call.key (call : Call) : ObjectKey := ⟨call.user, call.space, call.request.object⟩

/-- The side of the object's lock that an action needs. -/
def ActionFlags.mode (flags : ActionFlags) : LockMode :=
  if flags.requiresWrite then .exclusive else .shared

/-- What a handler or a scope gives in the end. -/
abbrev Outcome := Except ActionError RawJson

/-- A program of a handler or of a scope. -/
inductive Program where
  /-- Ends the program. -/
  | done (outcome : Outcome)
  /-- Ends the program by a panic. -/
  | panic (message : String)
  /-- Tells something about the run. -/
  | note (note : Note) (next : Program)
  /-- Asks the store. -/
  | store (call : StoreCall) (next : Except StoreError call.Answer → Program)
  /-- Looks how another caller would find an object now. -/
  | look (key : ObjectKey) (next : GuardView → Program)
  /-- Looks up the policy of an action, if the kind and the action are registered. -/
  | policy (kind action : String) (next : Option ActionFlags → Program)
  /-- Calls the engine. -/
  | call (call : Call) (next : Except EngineError Response → Program)
  /-- Reserves or releases a dependency around a scope. -/
  | depend (change : DependencyChange) (master slave : ObjectKey) (scope : Program)
      (next : Outcome → Program)

/-- The handler of an action: what it does for an object and a payload. -/
abbrev Handler := ObjectKey → RawJson → Program

namespace Program

/-- Ends a program by an error of the engine. -/
def failing (error : EngineError) : Program := done (.error (.engine error))

/-- Goes on with a value, or ends the program by the error in its place. -/
def orFail {ε α : Type} (toError : ε → ActionError) (next : α → Program) : Except ε α → Program
  | .ok value => next value
  | .error error => done (.error (toError error))

/-- The same program with its outcome changed. -/
def mapOutcome (f : Outcome → Outcome) : Program → Program
  | done outcome => done (f outcome)
  | panic message => panic message
  | note told next => note told (next.mapOutcome f)
  | store query next => store query fun answer => (next answer).mapOutcome f
  | look key next => look key fun view => (next view).mapOutcome f
  | policy kind action next => policy kind action fun flags => (next flags).mapOutcome f
  | call request next => call request fun result => (next result).mapOutcome f
  | depend change master slave scope next =>
    depend change master slave scope fun outcome => (next outcome).mapOutcome f

end Program

namespace Handler

/-- A handler that takes a payload of a form. -/
def typed (form : Json.Form) (body : ObjectKey → Json.Value → Program) : Handler :=
  fun key payload =>
    match payload.decode form with
    | .error detail => .done (.error (.invalidPayload detail))
    | .ok value => body key value

end Handler

end Provision
