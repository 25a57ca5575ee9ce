import Provision.Program

/-! # Workload kinds and their state

Each kind of workload keeps its state in records of its own. A record is tagged with the kind that
wrote it, so that no kind reads the state of another. -/

namespace Provision

/-- A kind of workload. -/
structure Workload where
  /-- The tag of its records. -/
  kind : String
  /-- What a state is decoded as. -/
  form : Json.Form
  /-- Whether states have an encoding. -/
  encodable : Bool := true

namespace Workload

open Json

/-- What follows the last `::` of a type path. -/
def afterLastSeparator : List Char → Option (List Char)
  | [] => none
  | c :: rest =>
    match afterLastSeparator rest with
    | some tail => some tail
    | none => if c = ':' ∧ rest.head? = some ':' then some rest.tail else none

/-- The kind of a workload that declares none: the name of its type, without the path in front of
    it and without type arguments. -/
def kindOfType (path : String) : String :=
  let name := path.toList.takeWhile (· != '<')
  String.ofList ((afterLastSeparator name).getD name)

/-- The refusal to encode a value that has no encoding. -/
def noEncoding : String := "unencodable"

/-- The state that a text stands for. Of a kind without encoding any text will do, for nothing is
    kept of it. -/
def stateOf (workload : Workload) (text : Bytes) : Except String Value :=
  if workload.encodable then workload.form.decodeText text else .ok .null

/-- Reads the state of an object. -/
def current (workload : Workload) (key : ObjectKey) (next : Except EngineError Value → Program) :
    Program :=
  .store (.has key) fun
    | .error cause => next (.error (.store cause))
    | .ok false => next (.error (.objectDoesNotExist key))
    | .ok true =>
      .store (.get key) fun
        | .error cause => next (.error (.store cause))
        | .ok record =>
          if record.kind = workload.kind then
            next ((workload.form.decodeText record.data).mapError (.decode key record.kind ·))
          else next (.error (.objectInvalidType key workload.kind record.kind))

/-- Stores the state of an object. -/
def save (workload : Workload) (key : ObjectKey) (state : Value)
    (next : Except EngineError Unit → Program) : Program :=
  if workload.encodable then
    .store (.write key ⟨workload.kind, state.print⟩) fun result => next (result.mapError .store)
  else next (.error (.encode workload.kind noEncoding))

/-- Reserves another object of the same space for the object, around a scope. -/
def addDependency (key : ObjectKey) (object : String) (scope : Program)
    (next : Outcome → Program) : Program :=
  .depend .add key (key.sibling object) scope next

/-- Releases another object of the same space from the object, around a scope. -/
def removeDependency (key : ObjectKey) (object : String) (scope : Program)
    (next : Outcome → Program) : Program :=
  .depend .remove key (key.sibling object) scope next

end Workload

end Provision
