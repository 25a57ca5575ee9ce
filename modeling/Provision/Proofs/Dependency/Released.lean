import Provision.Proofs.Dependency.AllOrNothing

/-! # Releases

A release runs its scope and takes the edge away if that succeeds, whether the edge was there or not. But it
looks up the resource of the slave before, and is refused without running its scope if there is none: also
where the slave is missing, so that nothing can rely on it.
-/

namespace Provision

open Run Node

namespace Engine

variable {engine : Engine} {resource : Resource} {master slave : ObjectKey} {node done after : Node}
  {scope : Run ActionError RawJson} {outcome : Except (Halt ActionError) RawJson}

/-- What is taken away after the scope of a release: the edge, if the scope succeeded. -/
def releases? (master slave : ObjectKey) : Except (Halt ActionError) RawJson → Option StoreCall
  | .ok _ => some (.unlink master slave)
  | .error _ => none

/-- If no call to the store goes wrong, a release ends as its scope does. -/
theorem ends_holdRelease_of_ran (ran : scope (node.marked (.began (.scope .remove slave))) = (outcome, done))
    (calm : done.faults.Calm) :
    (holdRelease master slave scope).Ends node fun result after => result = outcome ∧
      Obeys (releases? master slave outcome) (done.marked (.ended (.scope .remove slave))) after := by
  have runs : (within (.scope .remove slave) scope).Ends node fun result last =>
      result = outcome ∧ last = done.marked (.ended (.scope .remove slave)) := by
    rw [ends_within, Ends, ran]
    exact ⟨rfl, rfl⟩
  apply runs.bind
  · rintro output _ ⟨rfl, rfl⟩
    have unlinks : ((demand (.unlink master slave)).mapError ActionError.engine).Ends
        (done.marked (.ended (.scope .remove slave))) fun result last => (∃ answer, result = .ok answer) ∧
          Performed (.unlink master slave) (done.marked (.ended (.scope .remove slave))) last := by
      rw [ends_mapError]
      refine ends_demand_order ⟨(), rfl⟩ ?_ ?_ ?_
      · intro key same
        cases same
      · exact fun cause last wrong _ => absurd calm wrong
      · exact fun answer last undone _ => ⟨⟨answer, rfl⟩, undone⟩
    apply unlinks.bind
    · rintro _ last ⟨-, undone⟩
      exact ⟨rfl, undone.consulted (.marked trivial)⟩
    · rintro halt last ⟨⟨answer, same⟩, -⟩
      cases same
  · rintro halt _ ⟨rfl, rfl⟩
    exact ⟨rfl, .refl _⟩

/-- A release has taken away its edge if its scope succeeded, and has done nothing else to what the scope
    left. -/
structure Leaves (master slave : ObjectKey) (outcome : Except (Halt ActionError) RawJson)
    (store after : MemoryStore) : Prop where
  records : after.records = store.records
  made : ∀ output, outcome = .ok output →
    ∀ m s, after.Relies m s ↔ store.Relies m s ∧ ¬(m = master ∧ s = slave)
  failed : ∀ halt, outcome = .error halt → after = store

theorem leaves_of_obeys
    (obeys : Obeys (releases? master slave outcome) (done.marked (.ended (.scope .remove slave))) after) :
    Leaves master slave outcome done.store after.store := by
  cases outcome with
  | ok output =>
      have undone : Performed (.unlink master slave) (done.marked (.ended (.scope .remove slave))) after := obeys
      refine ⟨by rw [undone.store]; rfl, fun _ _ m s => ?_, nofun⟩
      rw [undone.store, MemoryStore.relies_after]
      rfl
  | error halt =>
      have asked : Consulted (done.marked (.ended (.scope .remove slave))) after := obeys
      refine ⟨by rw [asked.store]; rfl, nofun, fun _ _ => asked.store⟩

/-- No call to the store goes wrong, and the lock of an object can be shared. -/
structure Ready (slave : ObjectKey) (node : Node) : Prop where
  calm : node.faults.Calm
  sound : node.guards.Sound
  unheld : ¬node.guards.Holds slave.text .exclusive

theorem Ready.keep (ready : Ready slave node) (planned : SamePlan node after) (gives : GivesBack node after) :
    Ready slave after := by
  obtain ⟨sound, agrees⟩ := gives ready.sound
  exact ⟨planned.calm ready.calm, sound, fun holds => ready.unheld (agrees.holds_iff.mp holds)⟩

theorem Ready.consulted (ready : Ready slave node) (asked : Consulted node after) : Ready slave after :=
  ready.keep asked.schedule (GivesBack.framing.consulted asked)

/-- The resource of an object is known: it has a record, and its kind is registered. -/
def Resolves (engine : Engine) (store : MemoryStore) (key : ObjectKey) : Prop :=
  ∃ record resource, store.record? key = some record ∧ engine.resource? record.kind = some resource

theorem Unresolved.not_resolves {store : MemoryStore} {error : EngineError}
    (why : engine.Unresolved store slave error) : ¬engine.Resolves store slave := by
  rintro ⟨record, resource, found, registered⟩
  cases why with
  | absent missing => cases missing.symm.trans found
  | unregistered other unknown =>
      cases other.symm.trans found
      cases unknown.symm.trans registered

theorem Unresolved.unique {store : MemoryStore} {error error' : EngineError}
    (why : engine.Unresolved store slave error) (why' : engine.Unresolved store slave error') :
    error = error' := by
  cases why with
  | absent missing =>
      cases why' with
      | absent => rfl
      | unregistered found => cases missing.symm.trans found
  | unregistered found =>
      cases why' with
      | absent missing => cases missing.symm.trans found
      | unregistered found' =>
          cases found.symm.trans found'
          rfl

/-- A release whose resource is known ends as its scope does, on a node where nothing was done but to take the
    lock of the slave. -/
theorem ends_release (built : engine.Built) (ready : Ready slave node) (depth : Nat) (master : ObjectKey) :
    ∃ inside, inside.store = node.store ∧ ∀ program,
      (within (.dependency .remove slave) (guarded .shared slave .shared
        (holdRelease master slave (engine.run depth program)))).Ends node fun result after =>
          result = (engine.run depth program inside).1 ∧
          Leaves master slave result (engine.run depth program inside).2.store after.store ∧
          Ready slave after := by
  have free : (node.guards.take? slave.text .shared).isSome = true :=
    (GuardTable.take?_isSome_iff ready.sound).mpr ⟨ready.unheld, nofun⟩
  obtain ⟨⟨hold, held⟩, taken⟩ := Option.isSome_iff_exists.mp free
  refine ⟨((node.marked (.began (.dependency .remove slave))).withTable .shared held).marked
    (.began (.scope .remove slave)), rfl, fun program => ?_⟩
  have gives : Keeps GivesBack (holdRelease master slave (engine.run depth program)) :=
    GivesBack.framing.holdRelease GivesBack.performed trivial (GivesBack.run built depth program)
  have planned : Keeps SamePlan (within (.dependency .remove slave)
      (guarded .shared slave .shared (holdRelease master slave (engine.run depth program)))) :=
    fun _ => SamePlan.lockless.within trivial <| SamePlan.lockless.guarded fun _ _ _ =>
      SamePlan.lockless.toFraming.holdRelease Performed.schedule trivial (SamePlan.run engine depth program) _
  have again : (within (.dependency .remove slave) (guarded .shared slave .shared
      (holdRelease master slave (engine.run depth program)))).Ends node fun _ after => Ready slave after :=
    ready.keep (planned node) (GivesBack.within (GivesBack.guarded gives) node)
  have sound : (node.marked (.began (.dependency .remove slave))).guards.Sound := ready.sound
  obtain ⟨left, -, -, locked⟩ := GivesBack.guarded_of_taken gives sound taken
  have calm : (engine.run depth program (((node.marked (.began (.dependency .remove slave))).withTable .shared
      held).marked (.began (.scope .remove slave)))).2.faults.Calm :=
    (SamePlan.run engine depth program _).calm ready.calm
  obtain ⟨same, obeys⟩ : (holdRelease master slave (engine.run depth program)).Ends _ _ :=
    ends_holdRelease_of_ran (Prod.mk.eta).symm calm
  have ended := within_of_eq locked
  refine ⟨by rw [ended]; exact same, ?_, again⟩
  have leaves := leaves_of_obeys obeys
  rw [ended, same]
  exact leaves

/-- How a release comes out with any scope: it is refused whatever the scope is, or it ends as the scope does
    on a node where the edge is still there. -/
inductive Concludes (engine : Engine) (depth : Nat) (master slave : ObjectKey) (node : Node) : Prop where
  | refused {error : EngineError} {after : Node} (why : engine.Unresolved node.store slave error)
      (same : after.store = node.store)
      (ends : ∀ scope, engine.removeDependency master slave scope node = (.error (.error (.engine error)), after))
  | ran (inside : Node) (resolves : engine.Resolves node.store slave) (same : inside.store = node.store)
      (ends : ∀ program, (engine.removeDependency master slave (engine.run depth program)).Ends node
        fun result after => result = (engine.run depth program inside).1 ∧
          Leaves master slave result (engine.run depth program inside).2.store after.store ∧ Ready slave after)

theorem removeDependency_concludes (built : engine.Built) (ready : Ready slave node) (depth : Nat)
    (master : ObjectKey) : Concludes engine depth master slave node := by
  cases looked : engine.resourceOf slave node with
  | mk result mid =>
  obtain ⟨asked, known⟩ := ends_resourceOf.of_eq looked
  cases result with
  | error halt =>
      obtain ⟨error, rfl, why⟩ := known
      refine .refused (why ready.calm) asked.store fun scope => bind_of_error ?_
      rw [mapError, looked]
      rfl
  | ok resource =>
      obtain ⟨record, found, registered⟩ := known
      obtain ⟨inside, same, ends⟩ := ends_release built (ready.consulted asked) depth master
      refine .ran inside ⟨record, resource, found, registered⟩ (same.trans asked.store) fun program => ?_
      have first : ((engine.resourceOf slave).mapError ActionError.engine) node = (.ok resource, mid) := by
        rw [mapError, looked]
      rw [Ends, removeDependency_eq, bind_of_ok first]
      exact ends program

/-- When no call to the store goes wrong and the lock of its slave can be had, a release is refused, whatever
    its scope is, if the slave has no resource, be it that it is of a kind that is not registered or that there
    is no such object. Otherwise its scope runs and tells how the release ends. With a value all is as the scope
    left it but for the edge, which is not there, and to do it once more with a scope that changes nothing
    changes nothing. With an error all is as the scope left it. -/
theorem removeDependency_releases (built : engine.Built) (ready : Ready slave node) (depth : Nat)
    (master : ObjectKey) :
    (∀ error, engine.Unresolved node.store slave error → ∃ after, after.store = node.store ∧
      ∀ scope, engine.removeDependency master slave scope node = (.error (.error (.engine error)), after)) ∧
    (engine.Resolves node.store slave → ∃ inside, inside.store = node.store ∧ ∀ program, ∃ after,
      engine.removeDependency master slave (engine.run depth program) node =
        ((engine.run depth program inside).1, after) ∧
      Leaves master slave (engine.run depth program inside).1 (engine.run depth program inside).2.store
        after.store ∧
      ∀ output again value, (engine.run depth program inside).1 = .ok output →
        engine.Resolves after.store slave →
        (∀ start, start.store = after.store →
          ∃ last, engine.run depth again start = (.ok value, last) ∧ last.store = start.store) →
        ∃ last, engine.removeDependency master slave (engine.run depth again) after = (.ok value, last) ∧
          after.store.Agrees last.store) := by
  cases removeDependency_concludes built ready depth master with
  | refused why same ends =>
      refine ⟨fun error why' => ?_, fun resolves => absurd resolves why.not_resolves⟩
      obtain rfl := why.unique why'
      exact ⟨_, same, ends⟩
  | ran inside resolves same ends =>
      refine ⟨fun error why => absurd resolves why.not_resolves, fun _ => ⟨inside, same, fun program => ?_⟩⟩
      cases ended : engine.removeDependency master slave (engine.run depth program) node with
      | mk result after =>
      obtain ⟨rfl, leaves, ready⟩ := (ends program).of_eq ended
      refine ⟨after, rfl, leaves, fun output again value made resolves still => ?_⟩
      cases removeDependency_concludes built ready depth master with
      | refused why => exact absurd resolves why.not_resolves
      | ran inside' _ same' ends' =>
          obtain ⟨done, ran, kept⟩ := still inside' same'
          cases ended' : engine.removeDependency master slave (engine.run depth again) after with
          | mk result last =>
          obtain ⟨rfl, leaves', -⟩ := (ends' again).of_eq ended'
          rw [ran] at leaves' ⊢
          have unchanged : done.store = after.store := kept.trans same'
          refine ⟨last, rfl, leaves'.records.trans (by rw [unchanged]), fun m s => ?_⟩
          rw [leaves'.made value rfl, unchanged]
          refine and_iff_left_of_imp fun edge => ?_
          exact ((leaves.made output made m s).mp edge).2

end Engine

namespace Small

/-- Does nothing and succeeds. -/
def idle : Program := .done (.ok .null)

theorem reserved_ready (slave : ObjectKey) : Engine.Ready slave reserved where
  calm := FaultPlan.calm_none
  sound := GuardTable.sound_empty
  unheld := by
    rintro ⟨entry, -, member⟩
    cases member

end Small

/-- The release of a disk that is not there is refused, though its scope would succeed and there is no edge to
    be taken away. -/
theorem release_of_missing_refused :
    (∀ start, (Small.engine.run 9 Small.idle start).1 = .ok .null) ∧
    Small.engine.Unresolved Small.reserved.store (Small.object "b") (.objectDoesNotExist (Small.object "b")) ∧
    (Small.engine.removeDependency (Small.object "vm") (Small.object "b") (Small.engine.run 9 Small.idle)
      Small.reserved).1 = .error (.error (.engine (.objectDoesNotExist (Small.object "b")))) :=
  ⟨fun _ => rfl, .absent (by decide +kernel), by decide +kernel⟩

/-- The general statement for the disk that is reserved and for the one that is not there: the first is free
    afterwards, and to release it once more changes nothing. -/
theorem removeDependency_releases_reserved :
    (Small.engine.Built ∧ Engine.Ready (Small.object "a") Small.reserved ∧
      Engine.Ready (Small.object "b") Small.reserved) ∧
    (∃ after, ∀ scope, Small.engine.removeDependency (Small.object "vm") (Small.object "b") scope
      Small.reserved = (.error (.error (.engine (.objectDoesNotExist (Small.object "b")))), after)) ∧
    ∃ after last, Small.engine.removeDependency (Small.object "vm") (Small.object "a")
        (Small.engine.run 9 Small.idle) Small.reserved = (.ok .null, after) ∧
      ¬after.store.Relies (Small.object "vm") (Small.object "a") ∧
      Small.engine.removeDependency (Small.object "vm") (Small.object "a")
        (Small.engine.run 9 Small.idle) after = (.ok .null, last) ∧ after.store.Agrees last.store := by
  have ready := Small.reserved_ready
  have resolves : Small.engine.Resolves Small.reserved.store (Small.object "a") :=
    ⟨_, _, Small.reserved_found, rfl⟩
  refine ⟨⟨Small.engine_built, ready _, ready _⟩, ?_, ?_⟩
  · obtain ⟨after, -, refused⟩ := (Engine.removeDependency_releases Small.engine_built
      (ready (Small.object "b")) 9 (Small.object "vm")).1 _ (.absent (by decide +kernel))
    exact ⟨after, refused⟩
  · obtain ⟨inside, same, ends⟩ := (Engine.removeDependency_releases Small.engine_built
      (ready (Small.object "a")) 9 (Small.object "vm")).2 resolves
    obtain ⟨after, ended, leaves, repeats⟩ := ends Small.idle
    have kept : after.store.records = Small.reserved.store.records :=
      leaves.records.trans (congrArg MemoryStore.records same)
    have still : Small.engine.Resolves after.store (Small.object "a") := by
      rw [Engine.Resolves, MemoryStore.record?, kept]
      exact resolves
    obtain ⟨last, again, agrees⟩ := repeats .null Small.idle .null rfl still fun start _ => ⟨start, rfl, rfl⟩
    exact ⟨after, last, ended, fun edge => ((leaves.made .null rfl _ _).mp edge).2 ⟨rfl, rfl⟩, again, agrees⟩

end Provision
