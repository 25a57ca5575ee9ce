import Provision.Catalog.Kinds

/-! # Scripted handlers

A script is a handler written as a list of steps. The steps run in turn; the script gives the
output of the last step that has one, and null if none has. A step that fails ends the script,
unless failures of it are tolerated. A script never waits: a step that would have to is left out,
and a note says so. -/

namespace Provision

/-- The object that a step is about. What is left out is as in the object of the script. -/
structure Target where
  user : Option UInt32 := none
  space : Option String := none
  object : Option String := none
  deriving DecidableEq, Repr

/-- The key of a target, seen from an object. -/
def Target.key (target : Target) (self : ObjectKey) : ObjectKey :=
  ⟨target.user.getD self.user, target.space.getD self.space, target.object.getD self.object⟩

/-- One step of a script. A value that is left out is the payload, a kind that is left out the
    kind of the resource. -/
inductive Step where
  /-- Fails. -/
  | fail (reason : String)
  /-- Panics. -/
  | panic (message : String)
  /-- Outputs the payload. -/
  | echo
  /-- Outputs a value. -/
  | output (value : Option String)
  /-- Outputs whether the object exists. -/
  | exists
  /-- Outputs the parts of the object's key. -/
  | identity
  /-- Stores the state of the object. -/
  | save (kind : Option String) (value : Option String)
  /-- Outputs the state of the object. -/
  | current (kind : Option String)
  /-- Reserves or releases an object around a scope, and outputs what the scope gives. Of the target
      only the object is taken, in the user and space of the script's own object; the lock that is
      looked at is the target's. -/
  | depend (change : DependencyChange) (target : Target) (scope : List Step)
  /-- Stores a record without asking what is in it. -/
  | put (target : Target) (kind : Option String) (value : Option String)
  /-- Removes a record. -/
  | remove (target : Target)
  /-- Adds an edge from the object to a target. -/
  | link (target : Target)
  /-- Calls the engine. -/
  | call (target : Target) (kind action : String) (value : Option String)
  /-- Goes on if the step fails. -/
  | tolerating (step : Step)
  deriving Inhabited

/-- What a script runs on. -/
structure Scene where
  /-- Kind of the resource. -/
  kind : String
  object : ObjectKey
  payload : RawJson

namespace Scene

/-- The bytes of a value. -/
def bytes (scene : Scene) (value : Option String) : Bytes :=
  value.elim scene.payload.text Text.bytes

/-- A value as a JSON text. -/
def json (scene : Scene) : Option String → Except ActionError RawJson
  | none => .ok scene.payload
  | some value => (RawJson.ofBytes (Text.bytes value)).mapError .invalidPayload

/-- The workload of a kind. -/
def workload (scene : Scene) (kind : Option String) : Workload :=
  Catalog.workload (kind.getD scene.kind)

/-- The parts of the object's key. -/
def identity (scene : Scene) : RawJson :=
  .ofValue (.array
    [.int scene.object.user.toNat, .string scene.object.space, .string scene.object.object])

/-- Whether a dependency operation of the object on another would have to wait. A dependency of an
    object on itself is refused before anything is locked. -/
def mustWait (scene : Scene) (change : DependencyChange) (target : ObjectKey)
    (view : GuardView) : Bool :=
  view.state == .exclusive && (change == .remove || target != scene.object)

end Scene

/-- What follows a step, given the output so far or a failure. -/
abbrev Next := Outcome → Program

namespace Next

/-- Goes on after a step without an output of its own. -/
def keeping {α : Type} (next : Next) (output : RawJson) (toError : α → ActionError) :
    Except α Unit → Program
  | .ok () => next (.ok output)
  | .error error => next (.error (toError error))

end Next

namespace Step

/-- Stores the state that a text stands for. -/
def storeState (workload : Workload) (object : ObjectKey) (text : Bytes)
    (next : Except ActionError Unit → Program) : Program :=
  match workload.stateOf text with
  | .error detail => next (.error (.invalidPayload detail))
  | .ok state => workload.save object state fun result => next (result.mapError .engine)

/-- Goes on with a call of an action on an object, unless the call would have to wait; then a note
    says so. -/
def unlessWaiting (key : ObjectKey) (kind action : String) (calling next : Program) : Program :=
  .policy kind action fun
    | none => calling
    | some flags =>
      .look key fun view =>
        if view.state.admits flags.mode then calling else .note (.blocked key) next

/-- The scope of a dependency operation; it first notes how it finds an object. -/
def announced (change : DependencyChange) (key : ObjectKey) (body : Program) : Program :=
  .look key fun view => .note (.scope change view) body

mutual

/-- The program of one step, after which `next` follows. -/
def program (scene : Scene) (output : RawJson) (next : Next) : Step → Program
  | fail reason => next (.error (.failed reason))
  | panic message => .panic message
  | echo => next (.ok scene.payload)
  | .output value => next (scene.json value)
  | .exists =>
    .store (.has scene.object) fun answer =>
      next ((answer.map fun found => .ofValue (.bool found)).mapError fun e => .engine (.store e))
  | identity => next (.ok scene.identity)
  | save kind value =>
    storeState (scene.workload kind) scene.object (scene.bytes value) (next.keeping output id)
  | current kind =>
    (scene.workload kind).current scene.object fun state =>
      next ((state.map .ofValue).mapError .engine)
  | depend change target scope =>
    let key := target.key scene.object
    .look key fun view =>
      if scene.mustWait change key view then .note (.blocked key) (next (.ok output))
      else
        .depend change scene.object (scene.object.sibling key.object)
          (announced change key (programOf scene .null .done scope)) next
  | put target kind value =>
    .store (.write (target.key scene.object) ⟨kind.getD scene.kind, scene.bytes value⟩)
      (next.keeping output fun e => .engine (.store e))
  | remove target =>
    .store (.remove (target.key scene.object)) (next.keeping output fun e => .engine (.store e))
  | link target =>
    .store (.link scene.object (target.key scene.object))
      (next.keeping output fun e => .engine (.store e))
  | call target kind action value =>
    let key := target.key scene.object
    let calling :=
      match scene.json value with
      | .error error => next (.error error)
      | .ok payload =>
        .call ⟨key.user, key.space, kind, ⟨action, key.object, payload⟩⟩ fun result =>
          .note (.called result) (next (.ok output))
    unlessWaiting key kind action calling (next (.ok output))
  | tolerating step =>
    step.program scene output fun
      | .ok output => next (.ok output)
      | .error error => .note (.tried error) (next (.ok output))

/-- The program of steps, after which `next` follows. -/
def programOf (scene : Scene) (output : RawJson) (next : Next) : List Step → Program
  | [] => next (.ok output)
  | step :: steps =>
    step.program scene output fun
      | .ok output => programOf scene output next steps
      | .error error => next (.error error)

end

end Step

/-- A handler written as steps. -/
structure Script where
  steps : List Step
  /-- What the payload has to be; it is written anew then. -/
  input : Option Json.Form := none
  /-- Whether the output has an encoding. -/
  encodable : Bool := true

namespace Script

/-- What the handler of an action gives for the outcome of its steps. -/
def outcome (script : Script) (result : Outcome) : Outcome :=
  if script.encodable then result
  else
    match result with
    | .ok _ => .error (.invalidOutput Workload.noEncoding)
    | .error error => .error error

/-- The handler of an action. It first notes what it was called with. -/
def handler (script : Script) (kind action : String) : Handler := fun object payload =>
  let body (payload : RawJson) : Program :=
    .look object fun view =>
      .note (.ran (kind ++ "." ++ action) object view payload) <|
        Step.programOf ⟨kind, object, payload⟩ .null (.done ∘ script.outcome) script.steps
  match script.input with
  | none => body payload
  | some form =>
    match payload.decode form with
    | .error detail => .done (.error (.invalidPayload detail))
    | .ok value => body (.ofValue value)

end Script

end Provision
