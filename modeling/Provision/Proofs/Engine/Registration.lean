import Mathlib.Data.List.Forall2
import Mathlib.Data.Option.Defs
import Provision.Proofs.Engine.Assembly
import Provision.Proofs.Engine.Dispatch
import Provision.Proofs.Named
import Provision.Session

/-! # What is registered is what runs

Resources are described by sequences of registrations, and an engine is assembled of such descriptions. Both tables
are built alike: each step adds one entry, at the end, under a name that is not taken. So the assembly succeeds just
if no name is taken twice, and then everything is found under its name, in whatever order it was registered. A call
depends on what is found only.
-/

namespace Provision

/-! ## Tables of distinct names -/

section Tables

variable {σ ι : Type} {step : σ → ι → Except String σ} {good : ι → Prop}

/-- If each step adds a good item under a name that is not taken, all of them succeed just if the items are good
    and no name is taken twice. -/
theorem foldlM_eq_ok_iff (names : σ → List String) (name : ι → String) (extend : σ → List ι → σ)
    (steps : ∀ table item next, step table item = .ok next ↔
      good item ∧ name item ∉ names table ∧ next = extend table [item])
    (grows : ∀ table item, names (extend table [item]) = names table ++ [name item])
    (extend_nil : ∀ table, extend table [] = table)
    (extend_cons : ∀ table item items, extend (extend table [item]) items = extend table (item :: items))
    (items : List ι) {table last : σ} (distinct : (names table).Nodup) :
    items.foldlM step table = .ok last ↔
      (∀ item ∈ items, good item) ∧ (names table ++ items.map name).Nodup ∧ last = extend table items := by
  induction items generalizing table with
  | nil =>
      rw [List.foldlM_nil, extend_nil]
      constructor
      · rintro ⟨⟩
        exact ⟨nofun, by simpa using distinct, rfl⟩
      · rintro ⟨-, -, rfl⟩
        rfl
  | cons item items ih =>
      rw [List.foldlM_cons]
      have further : names (extend table [item]) ++ items.map name = names table ++ (item :: items).map name := by
        simp [grows]
      constructor
      · intro made
        cases first : step table item with
        | error message =>
            rw [first] at made
            cases made
        | ok next =>
            rw [first] at made
            obtain ⟨fit, free, rfl⟩ := (steps _ _ _).mp first
            have distinct' : (names (extend table [item])).Nodup := by
              rw [grows]
              refine List.nodup_append.mpr ⟨distinct, List.nodup_singleton _, fun other old added new => ?_⟩
              rintro rfl
              exact free (List.mem_singleton.mp new ▸ old)
            obtain ⟨fits, apart, rfl⟩ := (ih distinct').mp made
            rw [further] at apart
            exact ⟨List.forall_mem_cons.mpr ⟨fit, fits⟩, apart, extend_cons _ _ _⟩
      · rintro ⟨fits, apart, rfl⟩
        obtain ⟨fit, fits⟩ := List.forall_mem_cons.mp fits
        have free : name item ∉ names table := fun old =>
          (List.nodup_append.mp apart).2.2 _ old _ (List.mem_map_of_mem List.mem_cons_self) rfl
        rw [← further] at apart
        have first := (steps table item _).mpr ⟨fit, free, rfl⟩
        rw [first]
        exact (ih (List.nodup_append.mp apart).1).mpr ⟨fits, apart, (extend_cons _ _ _).symm ▸ rfl⟩

end Tables

/-! ## Descriptions -/

/-- One step in describing a resource. -/
inductive Registration where
  | withAction (name : String) (handler : Handler) (flags : ActionFlags)
  | withDelete (handler : Handler)

namespace Registration

/-- The name that is taken. -/
def name : Registration → String
  | withAction name _ _ => name
  | withDelete _ => Resource.deleteAction

/-- What is registered under the name. -/
def action : Registration → Action
  | withAction _ handler flags => ⟨handler, flags⟩
  | withDelete handler => ⟨handler, .exclusive⟩

/-- Whether the reserved name is asked for as if it were any other. -/
def Reserved : Registration → Prop
  | withAction name _ _ => name = Resource.deleteAction
  | withDelete _ => False

end Registration

namespace Resource

/-- Carries out a step. -/
def register (resource : Resource) : Registration → Except String Resource
  | .withAction name handler flags => resource.withAction name handler flags
  | .withDelete handler => resource.withDelete handler

/-- The resource with more actions. -/
def withAll (resource : Resource) (registrations : List Registration) : Resource :=
  { resource with
    actions := resource.actions ++ registrations.map fun registration => (registration.name, registration.action) }

variable {resource next : Resource} {name : String} {action : Action}

theorem insert_eq_ok_iff : resource.insert name action = .ok next ↔
    name ∉ resource.actions.map Prod.fst ∧
      next = { resource with actions := resource.actions ++ [(name, action)] } := by
  have taken : resource.hasAction name = true ↔ name ∈ resource.actions.map Prod.fst := by
    rw [hasAction, action?, List.lookup_isSome_iff]
    simp
  rw [insert]
  split
  next known => simp [taken.mp known]
  next new => simp [mt taken.mpr new, eq_comm]

theorem register_eq_ok_iff {registration : Registration} : resource.register registration = .ok next ↔
    ¬registration.Reserved ∧ registration.name ∉ resource.actions.map Prod.fst ∧
      next = resource.withAll [registration] := by
  cases registration with
  | withAction name handler flags =>
      rw [register, Resource.withAction, Registration.Reserved]
      split
      next reserved => simp [reserved]
      next free => simp [free, insert_eq_ok_iff, withAll, Registration.name, Registration.action]
  | withDelete handler =>
      simp [register, Resource.withDelete, insert_eq_ok_iff, withAll, Registration.name, Registration.action,
        Registration.Reserved]

end Resource

/-- A resource as it is described. -/
structure Description where
  name : String
  flags : ResourceFlags
  registrations : List Registration

namespace Description

/-- The resource before anything is registered. -/
def blank (description : Description) (guards : GuardScope) : Resource :=
  { name := description.name, flags := description.flags, guards }

/-- Describes the resource step by step. -/
def build (description : Description) : Except String Resource :=
  description.registrations.foldlM Resource.register (description.blank .own)

/-- The resource with everything that is registered. -/
def resource (description : Description) (guards : GuardScope) : Resource :=
  (description.blank guards).withAll description.registrations

/-- A description without a mistake. -/
structure Sound (description : Description) : Prop where
  free : ∀ registration ∈ description.registrations, ¬registration.Reserved
  distinct : (description.registrations.map Registration.name).Nodup

variable {description : Description} {resource : Resource} {name : String} {action : Action}

theorem build_eq_ok_iff :
    description.build = .ok resource ↔ description.Sound ∧ resource = description.resource .own := by
  have steps : description.build = .ok resource ↔ _ :=
    foldlM_eq_ok_iff (fun resource => resource.actions.map Prod.fst) Registration.name Resource.withAll
      (fun _ _ _ => Resource.register_eq_ok_iff) (by simp [Resource.withAll]) (by simp [Resource.withAll])
      (by simp [Resource.withAll]) description.registrations List.nodup_nil
  refine steps.trans ⟨?_, ?_⟩
  · rintro ⟨free, distinct, rfl⟩
    exact ⟨⟨free, distinct⟩, rfl⟩
  · rintro ⟨⟨free, distinct⟩, rfl⟩
    exact ⟨free, distinct, rfl⟩

/-- Of a described resource exactly those actions are found that are registered. -/
theorem Sound.action?_eq_some_iff (sound : description.Sound) {guards : GuardScope} :
    (description.resource guards).action? name = some action ↔
      ∃ registration ∈ description.registrations, registration.name = name ∧ registration.action = action := by
  have names : ((description.resource guards).actions.map Prod.fst).Nodup := by
    simpa [Description.resource, blank, Resource.withAll, Function.comp_def] using sound.distinct
  rw [Resource.action?, lookup_eq_some_iff_mem names]
  simp [Description.resource, blank, Resource.withAll]

end Description

namespace Engine

/-- An engine of resources that are described one after the other. -/
def describedBy (descriptions : List Description) : Except String Engine :=
  Session.assemble (descriptions.map Description.build)

/-- The engine with more resources. -/
def withAll (engine : Engine) (descriptions : List Description) : Engine where
  resources := engine.resources ++ descriptions.map fun description => description.resource .shared

variable {engine next : Engine} {resource : Resource} {descriptions : List Description} {description : Description}
  {kind : String}

theorem withResource_eq_ok_iff : engine.withResource resource = .ok next ↔
    resource.name ∉ engine.kinds ∧
      next = { resources := engine.resources ++ [{ resource with guards := .shared }] } := by
  have taken : (engine.resource? resource.name).isSome = true ↔ resource.name ∈ engine.kinds := by
    simp [resource?, kinds]
  rw [withResource]
  split
  next known => simp [taken.mp known]
  next new => simp [mt taken.mpr new, eq_comm]

theorem register_eq_ok_iff : (do engine.withResource (← description.build)) = .ok next ↔
    description.Sound ∧ description.name ∉ engine.kinds ∧ next = engine.withAll [description] := by
  constructor
  · intro made
    cases built : description.build with
    | error message =>
        rw [built] at made
        cases made
    | ok resource =>
        rw [built] at made
        obtain ⟨sound, rfl⟩ := Description.build_eq_ok_iff.mp built
        exact ⟨sound, withResource_eq_ok_iff.mp made⟩
  · rintro ⟨sound, new⟩
    rw [Description.build_eq_ok_iff.mpr ⟨sound, rfl⟩]
    exact withResource_eq_ok_iff.mpr new

theorem describedBy_eq_ok_iff : describedBy descriptions = .ok engine ↔
    (∀ description ∈ descriptions, description.Sound) ∧ (descriptions.map Description.name).Nodup ∧
      engine = Engine.empty.withAll descriptions := by
  rw [describedBy, Session.assemble, List.foldlM_map]
  exact foldlM_eq_ok_iff kinds Description.name withAll (fun _ _ _ => register_eq_ok_iff)
    (by simp [kinds, withAll, Description.resource, Description.blank, Resource.withAll]) (by simp [withAll])
    (by simp [withAll]) descriptions List.nodup_nil

theorem kinds_withAll : (engine.withAll descriptions).kinds = engine.kinds ++ descriptions.map Description.name := by
  simp [kinds, withAll, Description.resource, Description.blank, Resource.withAll]

theorem kinds_described (made : describedBy descriptions = .ok engine) :
    engine.kinds = descriptions.map Description.name := by
  obtain ⟨-, -, rfl⟩ := describedBy_eq_ok_iff.mp made
  exact kinds_withAll

/-- In an engine without a mistake exactly those resources are found that are described. -/
theorem resource?_eq_some_iff (distinct : (descriptions.map Description.name).Nodup) :
    (Engine.empty.withAll descriptions).resource? kind = some resource ↔
      ∃ description ∈ descriptions, description.name = kind ∧ resource = description.resource .shared := by
  constructor
  · intro found
    obtain ⟨member, named⟩ := mem_of_resource? found
    obtain ⟨description, described, rfl⟩ := List.mem_map.mp (show resource ∈ descriptions.map _ from member)
    exact ⟨description, described, named, rfl⟩
  · rintro ⟨description, described, rfl, rfl⟩
    have names : ((Engine.empty.withAll descriptions).resources.map Resource.name).Nodup := by
      rw [← kinds, kinds_withAll]
      exact distinct
    exact find?_of_mem names (List.mem_map_of_mem described)

end Engine

/-! ## Calls depend on what is found only -/

/-- Two resources of one name that differ at most in the order of their actions. -/
structure Resource.Alike (resource resource' : Resource) : Prop where
  name : resource.name = resource'.name
  flags : resource.flags = resource'.flags
  guards : resource.guards = resource'.guards
  actions : ∀ name, resource.action? name = resource'.action? name

/-- Two engines in which the same is found. -/
def Engine.Alike (engine engine' : Engine) : Prop :=
  ∀ kind, Option.Rel Resource.Alike (engine.resource? kind) (engine'.resource? kind)

namespace Resource

variable {resource resource' : Resource}

theorem Alike.dispatch (alike : resource.Alike resource') (run : Program → Run ActionError RawJson)
    (key : ObjectKey) (request : Request) :
    resource.dispatch run key request = resource'.dispatch run key request := by
  obtain ⟨name, flags, actions, guards⟩ := resource
  obtain ⟨rfl, rfl, rfl, same⟩ := alike
  rw [dispatch_eq, dispatch_eq, same]
  rfl

theorem Alike.addResolved (alike : resource.Alike resource') (master slave : ObjectKey)
    (scope : Run ActionError RawJson) :
    Engine.addResolved resource master slave scope = Engine.addResolved resource' master slave scope := by
  obtain ⟨name, flags, actions, guards⟩ := resource
  obtain ⟨rfl, rfl, rfl, -⟩ := alike
  rfl

end Resource

namespace Engine

variable {engine engine' : Engine}

open Run

theorem Alike.policy? (alike : engine.Alike engine') (kind action : String) :
    engine.policy? kind action = engine'.policy? kind action := by
  have same := alike kind
  rw [Engine.policy?, Engine.policy?]
  generalize engine.resource? kind = found at same ⊢
  generalize engine'.resource? kind = found' at same ⊢
  cases same with
  | none => rfl
  | some same => simp [same.actions]

/-- What an object is, is found out alike. -/
theorem Alike.resourceOf (alike : engine.Alike engine') (key : ObjectKey) (node : Node) :
    (∃ resource resource' after, resource.Alike resource' ∧ engine.resourceOf key node = (.ok resource, after) ∧
      engine'.resourceOf key node = (.ok resource', after)) ∨
    ∃ halt after, engine.resourceOf key node = (.error halt, after) ∧
      engine'.resourceOf key node = (.error halt, after) := by
  unfold Engine.resourceOf
  cases asked : (ask (.get key) : Run EngineError _) node with
  | mk result after =>
      cases result with
      | error halt => exact .inr ⟨halt, after, bind_of_error asked, bind_of_error asked⟩
      | ok answer =>
          rw [bind_of_ok asked, bind_of_ok asked]
          cases answer with
          | error cause => cases cause <;> exact .inr ⟨_, after, rfl, rfl⟩
          | ok record =>
              have same := alike record.kind
              dsimp only
              generalize engine.resource? record.kind = found at same ⊢
              generalize engine'.resource? record.kind = found' at same ⊢
              cases same with
              | none => exact .inr ⟨_, after, rfl, rfl⟩
              | some same => exact .inl ⟨_, _, after, same, rfl, rfl⟩

/-- Whoever goes on alike with resources that are alike goes on alike from what an object is. -/
theorem Alike.resourceOf_bind {α : Type} (alike : engine.Alike engine') (key : ObjectKey)
    {next next' : Resource → Run ActionError α}
    (onward : ∀ resource resource', resource.Alike resource' → next resource = next' resource') :
    ((engine.resourceOf key).mapError .engine >>= next) =
      ((engine'.resourceOf key).mapError .engine >>= next') := by
  funext node
  rcases alike.resourceOf key node with
    ⟨resource, resource', after, same, found, found'⟩ | ⟨halt, after, lost, lost'⟩
  · have first : (engine.resourceOf key).mapError ActionError.engine node = (.ok resource, after) := by
      simp [mapError, found]
    have first' : (engine'.resourceOf key).mapError ActionError.engine node = (.ok resource', after) := by
      simp [mapError, found']
    rw [bind_of_ok first, bind_of_ok first', onward resource resource' same]
  · have first : (engine.resourceOf key).mapError ActionError.engine node = (.error (halt.map .engine), after) := by
      simp [mapError, lost]
    have first' : (engine'.resourceOf key).mapError ActionError.engine node = (.error (halt.map .engine), after) := by
      simp [mapError, lost']
    rw [bind_of_error first, bind_of_error first']

theorem Alike.addDependency (alike : engine.Alike engine') (master slave : ObjectKey)
    (scope : Run ActionError RawJson) :
    engine.addDependency master slave scope = engine'.addDependency master slave scope := by
  unfold Engine.addDependency Engine.resolve
  split
  · rfl
  · exact alike.resourceOf_bind slave fun resource resource' same => same.addResolved master slave scope

theorem Alike.removeDependency (alike : engine.Alike engine') (master slave : ObjectKey)
    (scope : Run ActionError RawJson) :
    engine.removeDependency master slave scope = engine'.removeDependency master slave scope :=
  alike.resourceOf_bind slave fun _ _ _ => rfl

theorem Alike.program_run (alike : engine.Alike engine') (nested : Call → Run EngineError Response)
    (program : Program) : program.run engine nested = program.run engine' nested := by
  induction program with
  | done outcome => rfl
  | panic message => rfl
  | note told next ih => simp only [Program.run, ih]
  | store query next ih => simp only [Program.run, ih]
  | look key next ih => simp only [Program.run, ih]
  | policy kind action next ih => simp only [Program.run, ih, alike.policy?]
  | call request next ih => simp only [Program.run, ih]
  | depend change master slave scope next scopeIh ih =>
      simp only [Program.run, ih, scopeIh, alike.addDependency, alike.removeDependency]

/-- Engines in which the same is found answer each call alike. -/
theorem Alike.call (alike : engine.Alike engine') (depth : Nat) : engine.call depth = engine'.call depth := by
  induction depth with
  | zero => rfl
  | succ depth ih =>
      funext call
      have same := alike call.kind
      simp only [Engine.call]
      rw [ih, show Program.run engine (engine'.call depth) = Program.run engine' (engine'.call depth) from
        funext (alike.program_run _)]
      generalize engine.resource? call.kind = found at same ⊢
      generalize engine'.resource? call.kind = found' at same ⊢
      cases same with
      | none => rfl
      | some same => exact same.dispatch _ _ _

theorem Alike.run (alike : engine.Alike engine') (depth : Nat) (program : Program) :
    engine.run depth program = engine'.run depth program := by
  rw [Engine.run, Engine.run, alike.call, alike.program_run]

end Engine

/-! ## The order of registrations -/

/-- A description with its registrations in another order. -/
structure Description.Reorders (description other : Description) : Prop where
  name : description.name = other.name
  flags : description.flags = other.flags
  registrations : description.registrations.Perm other.registrations

/-- The same descriptions in another order, each with its registrations in another order. -/
def Reordered (descriptions others : List Description) : Prop :=
  ∃ between, descriptions.Perm between ∧ List.Forall₂ Description.Reorders between others

namespace Description

variable {description other : Description}

theorem Reorders.sound (reorders : description.Reorders other) (sound : description.Sound) : other.Sound where
  free registration member := sound.free registration (reorders.registrations.mem_iff.mpr member)
  distinct := (reorders.registrations.map Registration.name).nodup_iff.mp sound.distinct

theorem Reorders.alike (reorders : description.Reorders other) (sound : description.Sound) (guards : GuardScope) :
    (description.resource guards).Alike (other.resource guards) where
  name := reorders.name
  flags := reorders.flags
  guards := rfl
  actions name := by
    refine Option.ext fun action => ?_
    rw [sound.action?_eq_some_iff, (reorders.sound sound).action?_eq_some_iff]
    simp only [reorders.registrations.mem_iff]

end Description

namespace Reordered

variable {descriptions others : List Description} {description : Description}

theorem names (reordered : Reordered descriptions others) :
    (descriptions.map Description.name).Perm (others.map Description.name) := by
  obtain ⟨between, permuted, each⟩ := reordered
  have same : between.map Description.name = others.map Description.name :=
    List.forall₂_eq_eq_eq ▸ (List.forall₂_map_left_iff.mpr (List.forall₂_map_right_iff.mpr
      (each.imp fun _ _ reorders => reorders.name)))
  exact same ▸ permuted.map _

theorem exists_rel_of_mem {R : Description → Description → Prop} (each : List.Forall₂ R descriptions others)
    (member : description ∈ descriptions) : ∃ other ∈ others, R description other := by
  induction each with
  | nil => cases member
  | cons related _ ih =>
      rcases List.mem_cons.mp member with rfl | later
      · exact ⟨_, List.mem_cons_self, related⟩
      · obtain ⟨other, behind, found⟩ := ih later
        exact ⟨other, List.mem_cons_of_mem _ behind, found⟩

theorem exists_other (reordered : Reordered descriptions others) (member : description ∈ descriptions) :
    ∃ other ∈ others, description.Reorders other := by
  obtain ⟨between, permuted, each⟩ := reordered
  exact exists_rel_of_mem each (permuted.mem_iff.mp member)

theorem exists_description (reordered : Reordered descriptions others) {other : Description}
    (member : other ∈ others) : ∃ description ∈ descriptions, description.Reorders other := by
  obtain ⟨between, permuted, each⟩ := reordered
  have flipped : List.Forall₂ (fun other description => description.Reorders other) others between := each.flip
  obtain ⟨description, present, reorders⟩ := exists_rel_of_mem flipped member
  exact ⟨description, permuted.mem_iff.mpr present, reorders⟩

end Reordered

namespace Engine

open Run

variable {engine : Engine} {descriptions others : List Description} {description : Description}
  {registration : Registration} {call : Call}

/-- Descriptions in another order are accepted as they are, and the same is found. -/
theorem alike_of_reordered (made : describedBy descriptions = .ok engine) (reordered : Reordered descriptions others) :
    ∃ engine', describedBy others = .ok engine' ∧ engine.Alike engine' := by
  obtain ⟨sound, distinct, rfl⟩ := describedBy_eq_ok_iff.mp made
  have distinct' := reordered.names.nodup_iff.mp distinct
  refine ⟨Engine.empty.withAll others, describedBy_eq_ok_iff.mpr ⟨fun other member => ?_, distinct', rfl⟩,
    fun kind => ?_⟩
  · obtain ⟨description, present, reorders⟩ := reordered.exists_description member
    exact reorders.sound (sound description present)
  · cases found : (Engine.empty.withAll descriptions).resource? kind with
    | some resource =>
        obtain ⟨description, present, rfl, rfl⟩ := (resource?_eq_some_iff distinct).mp found
        obtain ⟨other, member, reorders⟩ := reordered.exists_other present
        rw [(resource?_eq_some_iff distinct').mpr ⟨other, member, reorders.name.symm, rfl⟩]
        exact .some (reorders.alike (sound description present) .shared)
    | none =>
        cases found' : (Engine.empty.withAll others).resource? kind with
        | none => exact .none
        | some resource =>
            obtain ⟨other, member, rfl, rfl⟩ := (resource?_eq_some_iff distinct').mp found'
            obtain ⟨description, present, reorders⟩ := reordered.exists_description member
            have other := (resource?_eq_some_iff distinct).mpr ⟨description, present, reorders.name, rfl⟩
            cases found.symm.trans other

theorem call_of_unknown_kind (made : describedBy descriptions = .ok engine)
    (unknown : call.kind ∉ descriptions.map Description.name) (depth : Nat) :
    engine.call (depth + 1) call = fail (.resourceNotFound call.kind) := by
  obtain ⟨-, distinct, rfl⟩ := describedBy_eq_ok_iff.mp made
  have missing : (Engine.empty.withAll descriptions).resource? call.kind = none := by
    refine Option.eq_none_iff_forall_ne_some.mpr fun resource found => unknown ?_
    obtain ⟨description, present, named, -⟩ := (resource?_eq_some_iff distinct).mp found
    exact List.mem_map.mpr ⟨description, present, named⟩
  rw [Engine.call, missing]

theorem call_of_known_kind (made : describedBy descriptions = .ok engine) (present : description ∈ descriptions)
    (named : description.name = call.kind) (depth : Nat) :
    engine.call (depth + 1) call =
      (description.resource .shared).dispatch (engine.run depth) call.key call.request := by
  obtain ⟨-, distinct, rfl⟩ := describedBy_eq_ok_iff.mp made
  rw [Engine.call, (resource?_eq_some_iff distinct).mpr ⟨description, present, named, rfl⟩]
  rfl

theorem call_of_unknown_action (made : describedBy descriptions = .ok engine) (present : description ∈ descriptions)
    (named : description.name = call.kind)
    (unknown : call.request.action ∉ description.registrations.map Registration.name) (depth : Nat) :
    engine.call (depth + 1) call = fail (.actionNotFound call.request.action) := by
  have sound := (describedBy_eq_ok_iff.mp made).1 description present
  have missing : (description.resource .shared).action? call.request.action = none := by
    refine Option.eq_none_iff_forall_ne_some.mpr fun action found => unknown ?_
    obtain ⟨registration, member, same, -⟩ := sound.action?_eq_some_iff.mp found
    exact List.mem_map.mpr ⟨registration, member, same⟩
  rw [call_of_known_kind made present named, Resource.dispatch_eq, missing]

theorem call_of_registered (made : describedBy descriptions = .ok engine) (present : description ∈ descriptions)
    (named : description.name = call.kind) (member : registration ∈ description.registrations)
    (same : registration.name = call.request.action) (depth : Nat) :
    engine.call (depth + 1) call =
      let resource := description.resource .shared
      within (resource.dispatchFrame call.key call.request registration.action)
        (guarded .shared call.key registration.action.flags.mode
          (resource.holdDispatch (engine.run depth) call.key call.request registration.action)) := by
  have sound := (describedBy_eq_ok_iff.mp made).1 description present
  rw [call_of_known_kind made present named, Resource.dispatch_eq,
    sound.action?_eq_some_iff.mpr ⟨registration, member, same, rfl⟩]
  rfl

theorem describedBy_eq_error_iff : (∃ message, describedBy descriptions = .error message) ↔
    (∃ description ∈ descriptions, ∃ handler flags,
      .withAction Resource.deleteAction handler flags ∈ description.registrations) ∨
    (∃ description ∈ descriptions, ¬(description.registrations.map Registration.name).Nodup) ∨
    ¬(descriptions.map Description.name).Nodup := by
  constructor
  · rintro ⟨message, refused⟩
    by_contra faultless
    obtain ⟨free, apart, distinct⟩ := not_or.mp faultless |>.imp_right not_or.mp
    have sound : ∀ description ∈ descriptions, description.Sound := by
      refine fun description present => ⟨fun registration member reserved => free ?_, ?_⟩
      · cases registration with
        | withAction name handler flags =>
            cases reserved
            exact ⟨description, present, handler, flags, member⟩
        | withDelete handler => exact reserved.elim
      · exact not_not.mp fun twice => apart ⟨description, present, twice⟩
    cases refused.symm.trans (describedBy_eq_ok_iff.mpr ⟨sound, not_not.mp distinct, rfl⟩)
  · intro mistake
    cases made : describedBy descriptions with
    | error message => exact ⟨message, rfl⟩
    | ok engine =>
        obtain ⟨sound, distinct, -⟩ := describedBy_eq_ok_iff.mp made
        rcases mistake with
          ⟨description, present, handler, flags, member⟩ | ⟨description, present, twice⟩ | twice
        · exact absurd rfl ((sound description present).free _ member)
        · exact absurd (sound description present).distinct twice
        · exact absurd distinct twice

theorem policy?_delete (made : describedBy descriptions = .ok engine) {kind : String} {flags : ActionFlags}
    (registered : engine.policy? kind Resource.deleteAction = some flags) : flags = .exclusive := by
  obtain ⟨sound, distinct, rfl⟩ := describedBy_eq_ok_iff.mp made
  obtain ⟨resource, found, described⟩ := Option.bind_eq_some_iff.mp registered
  obtain ⟨description, present, -, rfl⟩ := (resource?_eq_some_iff distinct).mp found
  obtain ⟨action, known, rfl⟩ := Option.map_eq_some_iff.mp described
  obtain ⟨registration, member, named, rfl⟩ := (sound description present).action?_eq_some_iff.mp known
  cases registration with
  | withAction name handler flags => exact absurd named ((sound description present).free _ member)
  | withDelete handler => rfl

end Engine

open Run in
/-- The assembly of an engine is refused just if an action is described under the reserved name as if it were any
    other, a name is given twice in a description, or a kind twice. Otherwise a call of a kind that is registered, with
    an action that is registered for it, is dispatched under a lock of the engine's table with just the handler and
    the flags that are registered; other calls are refused. Deletes run alone. With the registrations in another
    order all calls and programs run as before, and only the order of the kinds may be another. -/
theorem registered_is_what_runs (descriptions : List Description) :
    ((∃ message, Engine.describedBy descriptions = .error message) ↔
      (∃ description ∈ descriptions, ∃ handler flags,
        .withAction Resource.deleteAction handler flags ∈ description.registrations) ∨
      (∃ description ∈ descriptions, ¬(description.registrations.map Registration.name).Nodup) ∨
      ¬(descriptions.map Description.name).Nodup) ∧
    ∀ engine, Engine.describedBy descriptions = .ok engine →
      engine.kinds = descriptions.map Description.name ∧
      (∀ resource ∈ engine.resources, resource.guards = .shared) ∧
      (∀ kind flags, engine.policy? kind Resource.deleteAction = some flags → flags = .exclusive) ∧
      (∀ depth call, call.kind ∉ descriptions.map Description.name →
        engine.call (depth + 1) call = fail (.resourceNotFound call.kind)) ∧
      (∀ depth call, ∀ description ∈ descriptions, description.name = call.kind →
        call.request.action ∉ description.registrations.map Registration.name →
        engine.call (depth + 1) call = fail (.actionNotFound call.request.action)) ∧
      (∀ depth call, ∀ description ∈ descriptions, description.name = call.kind →
        ∀ registration ∈ description.registrations, registration.name = call.request.action →
        engine.call (depth + 1) call =
          let resource := description.resource .shared
          within (resource.dispatchFrame call.key call.request registration.action)
            (guarded .shared call.key registration.action.flags.mode
              (resource.holdDispatch (engine.run depth) call.key call.request registration.action))) ∧
      ∀ others, Reordered descriptions others →
        ∃ engine', Engine.describedBy others = .ok engine' ∧ engine'.kinds = others.map Description.name ∧
          engine.kinds.Perm engine'.kinds ∧ (∀ depth call, engine.call depth call = engine'.call depth call) ∧
          ∀ depth program, engine.run depth program = engine'.run depth program := by
  refine ⟨Engine.describedBy_eq_error_iff, fun engine made => ?_⟩
  refine ⟨Engine.kinds_described made, fun resource member => ?_, fun kind flags => Engine.policy?_delete made,
    fun depth call unknown => Engine.call_of_unknown_kind made unknown depth,
    fun depth call description present named unknown =>
      Engine.call_of_unknown_action made present named unknown depth,
    fun depth call description present named registration member same =>
      Engine.call_of_registered made present named member same depth,
    fun others reordered => ?_⟩
  · obtain ⟨-, -, rfl⟩ := Engine.describedBy_eq_ok_iff.mp made
    obtain ⟨description, -, rfl⟩ := List.mem_map.mp member
    rfl
  · obtain ⟨engine', made', alike⟩ := Engine.alike_of_reordered made reordered
    have kinds' := Engine.kinds_described made'
    refine ⟨engine', made', kinds', ?_, fun depth call => congrFun (alike.call depth) call, alike.run⟩
    rw [Engine.kinds_described made, kinds']
    exact reordered.names

namespace Small

/-- A disk or a network, as it is described. -/
def description (kind : String) (flags : ResourceFlags) : Description where
  name := kind
  flags := flags
  registrations := [.withAction "create" (create kind) .create, .withDelete delete]

/-- The same with its two actions the other way round. -/
def turned (kind : String) (flags : ResourceFlags) : Description where
  name := kind
  flags := flags
  registrations := [.withDelete delete, .withAction "create" (create kind) .create]

def descriptions : List Description := [description "disk" .exclusive, description "network" .shareable]

def otherDescriptions : List Description := [turned "network" .shareable, turned "disk" .exclusive]

theorem reordered_descriptions : Reordered descriptions otherDescriptions := by
  have turns : ∀ kind flags, (description kind flags).Reorders (turned kind flags) := fun kind flags =>
    ⟨rfl, rfl, .swap _ _ _⟩
  exact ⟨[description "network" .shareable, description "disk" .exclusive], .swap _ _ _,
    .cons (turns _ _) (.cons (turns _ _) .nil)⟩

end Small

/-- The general statement for disks and networks: a kind that is described twice is refused, and described the other
    way round they answer each call as before. -/
theorem registered_is_what_runs_turned :
    (Engine.describedBy Small.descriptions = .ok Small.engine ∧
      Reordered Small.descriptions Small.otherDescriptions) ∧
    (∃ message, Engine.describedBy (Small.otherDescriptions ++ Small.descriptions) = .error message) ∧
    ∃ engine, Engine.describedBy Small.otherDescriptions = .ok engine ∧ engine.kinds = ["network", "disk"] ∧
      (∀ depth call, Small.engine.call depth call = engine.call depth call) ∧
      ∀ depth, engine.call (depth + 1) ⟨1, "space", "pool", { action := "create", object := "a" }⟩ =
        Run.fail (.resourceNotFound "pool") := by
  have made : Engine.describedBy Small.descriptions = .ok Small.engine := rfl
  obtain ⟨-, runs⟩ := registered_is_what_runs Small.descriptions
  obtain ⟨-, -, -, unknown, -, -, turned⟩ := runs Small.engine made
  obtain ⟨engine, made', kinds, -, same, -⟩ := turned Small.otherDescriptions Small.reordered_descriptions
  refine ⟨⟨made, Small.reordered_descriptions⟩, ?_, engine, made', kinds, same, fun depth => ?_⟩
  · refine (registered_is_what_runs _).1.mpr (.inr (.inr ?_))
    decide
  · rw [← same]
    exact unknown depth _ (by decide)

end Provision
