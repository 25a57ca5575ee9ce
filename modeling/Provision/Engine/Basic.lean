import Provision.Resource

/-! # The registry of an engine

An engine knows the resources registered with it, one per kind, in the order of registration. A
registered resource guards its objects in the one table of the engine, so that calls against one
object meet whichever kind they are made through. -/

namespace Provision

/-- The registered resources. -/
structure Engine where
  resources : List Resource := []

namespace Engine

/-- The engine without resources. -/
def empty : Engine := {}

/-- The resource registered for a kind. -/
def resource? (engine : Engine) (kind : String) : Option Resource :=
  engine.resources.find? fun resource => resource.name == kind

/-- The registered kinds, in the order of registration. -/
def kinds (engine : Engine) : List String := engine.resources.map Resource.name

/-- The policy of an action, if the kind and the action are registered. -/
def policy? (engine : Engine) (kind action : String) : Option ActionFlags :=
  (engine.resource? kind).bind fun resource => (resource.action? action).map Action.flags

/-- Registers a resource for a kind that is not taken. -/
def withResource (engine : Engine) (resource : Resource) : Except String Engine :=
  if (engine.resource? resource.name).isSome then
    .error ("resource '" ++ resource.name ++ "' is already registered")
  else .ok { engine with resources := engine.resources ++ [{ resource with guards := .shared }] }

/-- An engine as diagnostics show it. -/
def inspect (engine : Engine) : String :=
  Text.inspectPartial "Engine" [("resources", Text.inspectList engine.kinds)]

/-- An engine that is still being assembled, as diagnostics show it. -/
def inspectUnfinished (engine : Engine) : String :=
  Text.inspectPartial "EngineBuilder" [("resources", Text.inspectList engine.kinds)]

end Engine

end Provision
