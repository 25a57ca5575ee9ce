import Provision.Program

/-! # Resources

A resource describes one kind of workload: its name, whether its objects can be shared as
dependencies, and its actions. The name `delete` is reserved for the action that removes an
object, which always runs alone. A mistake in the description is found when it is made. -/

namespace Provision

/-- A named operation on a kind of workload. -/
structure Action where
  handler : Handler
  flags : ActionFlags

/-- A kind of workload that can be called. -/
structure Resource where
  name : String
  flags : ResourceFlags
  /-- The actions by name, in the order they were described. -/
  actions : List (String × Action) := []
  /-- Which table guards the objects. -/
  guards : GuardScope := .own

namespace Resource

/-- Name of the action that removes an object. -/
def deleteAction : String := "delete"

/-- The action of a name. -/
def action? (resource : Resource) (name : String) : Option Action := resource.actions.lookup name

/-- Whether there is an action of a name. -/
def hasAction (resource : Resource) (name : String) : Bool := (resource.action? name).isSome

/-- The names of all actions, sorted. -/
def actionNames (resource : Resource) : List String :=
  (resource.actions.map Prod.fst).mergeSort fun a b => decide (a ≤ b)

/-- Adds an action under a name that is not taken. -/
def insert (resource : Resource) (name : String) (action : Action) : Except String Resource :=
  if resource.hasAction name then .error ("action '" ++ name ++ "' already exists")
  else .ok { resource with actions := resource.actions ++ [(name, action)] }

/-- Adds an action under a name that is neither reserved nor taken. -/
def withAction (resource : Resource) (name : String) (handler : Handler) (flags : ActionFlags) :
    Except String Resource :=
  if name = deleteAction then .error ("action '" ++ name ++ "' is reserved")
  else resource.insert name ⟨handler, flags⟩

/-- Adds the action that removes an object. -/
def withDelete (resource : Resource) (handler : Handler) : Except String Resource :=
  resource.insert deleteAction ⟨handler, .exclusive⟩

/-- A resource as diagnostics show it. -/
def inspect (resource : Resource) : String :=
  Text.inspectRecord "Resource"
    [("name", Text.inspect resource.name), ("flags", resource.flags.inspect),
      ("actions", Text.inspectList resource.actionNames)]

end Resource

end Provision
