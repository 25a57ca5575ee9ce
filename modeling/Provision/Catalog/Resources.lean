import Provision.Resource
import Provision.Script

/-! # Standard resources

Disks belong to one machine each, networks can be shared, and a virtual machine relies on the
disks it names. -/

namespace Provision

/-- The description of one action of a scripted resource. -/
structure ScriptedAction where
  /-- The name; the action that removes an object has none. -/
  name : Option String
  flags : ActionFlags := .empty
  script : Script

/-- Adds a scripted action. -/
def Resource.withScripted (resource : Resource) (action : ScriptedAction) :
    Except String Resource :=
  match action.name with
  | some name => resource.withAction name (action.script.handler resource.name name) action.flags
  | none => resource.withDelete (action.script.handler resource.name Resource.deleteAction)

/-- A resource with scripted actions. -/
def Resource.scripted (kind : String) (flags : ResourceFlags) (actions : List ScriptedAction) :
    Except String Resource :=
  actions.foldlM Resource.withScripted ⟨kind, flags, [], .own⟩

namespace Catalog

open Json

/-- The script of an action that takes nothing. -/
def bare (steps : List Step) : Script := { steps, input := some (.plain .unit) }

/-- Creating, reading and removing objects that keep their state as it was given. -/
def plainActions (form : Form) : List ScriptedAction :=
  [⟨some "create", .create, { steps := [.save none none], input := some form }⟩,
    ⟨some "get", .empty, bare [.current none]⟩,
    ⟨none, .empty, bare []⟩]

/-- Disks; replacing one gives its old state. -/
def disk : Except String Resource :=
  Resource.scripted "disk" .exclusive <| plainActions diskForm ++
    [⟨some "replace", .exclusive,
      { steps := [.current none, .save none none], input := some diskForm }⟩]

/-- Networks. -/
def network : Except String Resource :=
  Resource.scripted "network" .shareable (plainActions networkForm)

namespace Machine

/-- Virtual machines as a kind of workload. -/
def workload : Workload := Catalog.workload machineKind

/-- The end of a handler without output. -/
def finished : Program := .done (.ok .null)

/-- The disks that a state names. -/
def disksOf (state : Value) : List String :=
  match state.member? "disks" with
  | some (.array disks) => disks.filterMap Value.text?
  | _ => []

/-- A state that names other disks. -/
def withDisks (state : Value) (disks : List String) : Value :=
  match state with
  | .object members =>
    .object (members.map fun (name, value) =>
      (name, if name = "disks" then .array (disks.map .string) else value))
  | state => state

/-- Stores a state and ends. -/
def saveAndFinish (key : ObjectKey) (state : Value) : Program :=
  workload.save key state (Program.orFail .engine fun () => finished)

/-- Reserves disks in turn. -/
def reserveDisks (key : ObjectKey) (next : Program) : List String → Program
  | [] => next
  | disk :: disks =>
    Workload.addDependency key disk finished
      (Program.orFail id fun _ => reserveDisks key next disks)

/-- Creates a machine, once its disks are reserved for it. -/
def create (key : ObjectKey) (state : Value) : Program :=
  reserveDisks key (saveAndFinish key state) (disksOf state)

/-- Gives the state of a machine. -/
def get (key : ObjectKey) (_ : Value) : Program :=
  workload.current key (Program.orFail .engine fun state => .done (.ok (.ofValue state)))

/-- Reserves one more disk. -/
def attach (key : ObjectKey) (disk : Value) : Program :=
  reserveDisks key finished disk.text?.toList

/-- Releases a disk and forgets its name. -/
def detach (key : ObjectKey) (disk : Value) : Program :=
  workload.current key <| Program.orFail .engine fun state =>
    Workload.removeDependency key (disk.text?.getD "") finished <| Program.orFail id fun _ =>
      let kept := (disksOf state).filter fun name => disk.text? != some name
      saveAndFinish key (withDisks state kept)

end Machine

open Machine in
/-- Virtual machines. -/
def machine : Except String Resource := do
  let resource : Resource := ⟨machineKind, .shareable, [], .own⟩
  let resource ← resource.withAction "create" (.typed machineForm create) .create
  let resource ← resource.withAction "get" (.typed (.plain .unit) get) .empty
  let resource ← resource.withAction "attach" (.typed (.plain .string) attach) .exclusive
  let resource ← resource.withAction "detach" (.typed (.plain .string) detach) .exclusive
  resource.withDelete (.typed (.plain .unit) fun _ _ => finished)

/-- The standard resource of a kind. -/
def resource? : String → Option (Except String Resource)
  | "disk" => some disk
  | "network" => some network
  | "vm" => some machine
  | _ => none

end Catalog

end Provision
