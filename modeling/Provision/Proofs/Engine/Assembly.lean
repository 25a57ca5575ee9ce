import Provision.Proofs.Engine.Conduct

/-! # Assembled engines

Resources are described action by action, and an engine is assembled resource by resource. However
that is done, the action that removes objects runs alone, no two resources are of one kind, and all
resources guard their objects in the table of the engine.
-/

namespace Provision

namespace Resource

/-- What comes of describing a resource action by action. -/
inductive Built : Resource → Prop where
  | new (name : String) (flags : ResourceFlags) : Built { name, flags }
  | withAction {resource next : Resource} {name : String} {handler : Handler} {flags : ActionFlags}
      (built : Built resource) (added : resource.withAction name handler flags = .ok next) :
      Built next
  | withDelete {resource next : Resource} {handler : Handler} (built : Built resource)
      (added : resource.withDelete handler = .ok next) : Built next

variable {resource next : Resource} {name other : String} {action found : Action}

theorem action?_insert (added : resource.insert name action = .ok next) :
    resource.action? name = none ∧
      next.action? other = (resource.action? other).or (if other = name then some action else none) := by
  unfold insert at added
  split at added
  next taken => cases added
  next new =>
    cases added
    constructor
    · simpa [hasAction] using new
    · simp only [action?, List.lookup_append, List.lookup_cons, List.lookup_nil]
      by_cases same : other = name
      · simp [same]
      · simp [same, beq_eq_false_iff_ne.mpr same]

theorem mem_of_action? (described : resource.action? name = some action) :
    (name, action) ∈ resource.actions := by
  obtain ⟨before, after, same, -⟩ := List.lookup_eq_some_iff.mp described
  simp [same]

/-- The action that removes objects runs alone, and needs its object to exist. -/
theorem Built.deleteFlags (built : resource.Built)
    (described : resource.action? deleteAction = some found) : found.flags = .exclusive := by
  induction built with
  | new name flags => cases described
  | withAction built added ih =>
      unfold Resource.withAction at added
      split at added
      next reserved => cases added
      next free =>
        rw [(action?_insert added).2, if_neg (Ne.symm free), Option.or_none] at described
        exact ih described
  | withDelete built added ih =>
      obtain ⟨missing, later⟩ := action?_insert added
      rw [later, missing, if_pos rfl, Option.none_or] at described
      cases described
      rfl

end Resource

namespace Engine

/-- What comes of registering described resources one after the other. -/
inductive Built : Engine → Prop where
  | empty : Built .empty
  | withResource {engine next : Engine} {resource : Resource} (built : Built engine)
      (described : resource.Built) (added : engine.withResource resource = .ok next) : Built next

variable {engine next : Engine} {resource other : Resource}

theorem resources_withResource (added : engine.withResource resource = .ok next) :
    engine.resource? resource.name = none ∧
      next.resources = engine.resources ++ [{ resource with guards := .shared }] := by
  unfold withResource at added
  split at added
  next taken => cases added
  next free =>
    cases added
    exact ⟨by simpa using free, rfl⟩

/-- A registered resource is a described one that guards its objects in the engine's table. -/
theorem Built.registered (built : engine.Built) (member : resource ∈ engine.resources) :
    ∃ described : Resource, described.Built ∧ resource = { described with guards := .shared } := by
  induction built with
  | empty => cases member
  | withResource built described added ih =>
      rw [(resources_withResource added).2] at member
      rcases List.mem_append.mp member with old | new
      · exact ih old
      · exact ⟨_, described, List.mem_singleton.mp new⟩

theorem Built.guards (built : engine.Built) (member : resource ∈ engine.resources) :
    resource.guards = .shared := by
  obtain ⟨described, -, rfl⟩ := built.registered member
  rfl

theorem Built.deleteFlags (built : engine.Built) (member : resource ∈ engine.resources)
    {action : Action} (found : resource.action? Resource.deleteAction = some action) :
    action.flags = .exclusive := by
  obtain ⟨described, known, rfl⟩ := built.registered member
  exact known.deleteFlags found

end Engine

/-! ## A small engine

Disks for one master each, and networks for any number. Objects of both kinds are created and deleted,
and nothing else.
-/

namespace Small

/-- Stores a record without data. -/
def create (kind : String) : Handler := fun key _ =>
  .store (.write key ⟨kind, []⟩) fun _ => .done (.ok .null)

/-- Does nothing of its own. -/
def delete : Handler := fun _ _ => .done (.ok .null)

/-- A kind whose objects are created and deleted. -/
def resource (kind : String) (flags : ResourceFlags) : Resource where
  name := kind
  flags := flags
  actions := [("create", ⟨create kind, .create⟩), (Resource.deleteAction, ⟨delete, .exclusive⟩)]

theorem resource_built (kind : String) (flags : ResourceFlags) : (resource kind flags).Built := by
  have first : ({ name := kind, flags } : Resource).withAction "create" (create kind) .create =
      .ok { name := kind, flags, actions := [("create", ⟨create kind, .create⟩)] } := rfl
  exact .withDelete (.withAction (.new kind flags) first) rfl

/-- Disks and networks. -/
def engine : Engine where
  resources := [resource "disk" .exclusive, resource "network" .shareable].map fun resource =>
    { resource with guards := .shared }

theorem engine_built : engine.Built := by
  have first : Engine.empty.withResource (resource "disk" .exclusive) =
      .ok { resources := [{ resource "disk" .exclusive with guards := .shared }] } := rfl
  exact .withResource (.withResource .empty (resource_built _ _) first)
    (resource_built "network" .shareable) rfl

/-- An object of the one user, in the one space. -/
def object (name : String) : ObjectKey := ⟨1, "space", name⟩

/-- Calls an action of an object. -/
def act (kind action name : String) : Program :=
  .call ⟨1, "space", kind, { action, object := name }⟩ fun _ => .done (.ok .null)

/-- Reserves one object for another, around a scope, and ends in a way of its own. -/
def reserve (master slave : String) (scope : Program) (outcome : Outcome) : Program :=
  .depend .add (object master) (object slave) scope fun _ => .done outcome

/-- Creates a disk in the scope of a reservation of a network. -/
def creating : Program := reserve "vm" "n" (act "disk" "create" "a") (.ok .null)

theorem resource_confined {kind : String} (flags : ResourceFlags) {allowed : Actor → Deed → Prop}
    (may : ∀ key, allowed (.handler kind key) (.store (.write key ⟨kind, []⟩))) :
    (resource kind flags).Confined allowed := by
  intro name action described key payload
  have member := Resource.mem_of_action? described
  simp only [resource, List.mem_cons, Prod.mk.injEq, List.not_mem_nil, or_false] at member
  rcases member with ⟨-, rfl⟩ | ⟨-, rfl⟩
  · exact ⟨may key, fun _ => trivial⟩
  · exact trivial

/-- The handlers only store records of their own kind for their own object. -/
theorem engine_confined {allowed : Actor → Deed → Prop}
    (may : ∀ kind key, allowed (.handler kind key) (.store (.write key ⟨kind, []⟩))) :
    ∀ resource ∈ engine.resources, resource.Confined allowed := by
  intro resource member
  simp only [engine, List.map_cons, List.map_nil, List.mem_cons, List.not_mem_nil, or_false] at member
  rcases member with rfl | rfl
  · exact resource_confined .exclusive (may "disk")
  · exact resource_confined .shareable (may "network")

end Small

end Provision
