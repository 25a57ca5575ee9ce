import Provision.Proofs.Engine.Assembly
import Provision.Proofs.Engine.Framing
import Provision.Proofs.Run.Completed

/-! # Masters that have a record

If handlers touch the store for their own object only, an edge is recorded only for an object whose
handler is running. It has a record all the while, unless it is being created; and then it has one when
the create has succeeded, or gives up what it relies on when the create has failed. So outside of the
handlers every master has a record.
-/

namespace Provision

open Run Node

/-- What an actor may do if handlers are to use the store for their own object only: they may ask, store
    records of their kind for the object, reserve and release for the object, and call the engine. -/
def OwnObject : Actor → Deed → Prop
  | .handler kind object, .store call => call.Reads ∨ ∃ data, call = .write object ⟨kind, data⟩
  | .handler _ object, .depend _ master _ => master = object
  | .handler .., .call _ => True
  | .caller, deed => ∃ call, deed = .call call

theorem OwnObject.not_link {actor : Actor} {master slave : ObjectKey} :
    ¬OwnObject actor (.store (.link master slave)) := by
  cases actor with
  | caller => exact fun may => nomatch may
  | handler kind object => exact fun may => may.elim id fun ⟨_, same⟩ => nomatch same

namespace MemoryStore

variable {store : MemoryStore} {excused : ObjectKey → Prop} {call : StoreCall} {key : ObjectKey}

/-- Every master has a record, or is excused. -/
def Owned (store : MemoryStore) (excused : ObjectKey → Prop) : Prop :=
  ∀ master slave, store.Relies master slave → store.hasRecord master = true ∨ excused master

/-- The removal of a record takes its edges with it, so only a new edge needs an excuse. -/
theorem Owned.after (owned : store.Owned excused)
    (links : ∀ master slave, call = .link master slave → excused master) :
    (store.after call).Owned excused := by
  intro master slave edge
  rw [relies_after] at edge
  have kept : store.Relies master slave → call ≠ .remove master →
      (store.after call).hasRecord master = true ∨ excused master := fun old other =>
    (owned master slave old).imp_left (hasRecord_after other)
  cases call with
  | link a b =>
      rcases edge with ⟨rfl, rfl⟩ | old
      · exact .inr (links _ _ rfl)
      · exact kept old fun same => nomatch same
  | remove a =>
      obtain ⟨old, gone⟩ := edge
      by_cases same : master = a
      · subst same
        exact .inr ((owned _ slave old).resolve_left fun found => gone ⟨rfl, found⟩)
      · exact kept old fun equal => same (by cases equal; rfl)
  | unlink | release => exact kept edge.1 fun same => nomatch same
  | get | has | write | masters => exact kept edge fun same => nomatch same

/-- An object that has a record, or no edges, needs no excuse. -/
theorem Owned.settle (owned : store.Owned fun other => other = key ∨ excused other)
    (settled : store.hasRecord key = true ∨ ∀ slave, ¬store.Relies key slave) :
    store.Owned excused := by
  intro master slave edge
  rcases owned master slave edge with found | rfl | may
  · exact .inl found
  · exact .inl (settled.resolve_right fun none' => none' slave edge)
  · exact .inr may

end MemoryStore

/-- No call goes wrong, the guards are sound, and the kinds of all records are registered. -/
structure Proper (engine : Engine) (node : Node) : Prop where
  calm : node.faults.Calm
  sound : node.guards.Sound
  known : ∀ key record, node.store.record? key = some record →
    (engine.resource? record.kind).isSome = true

theorem Proper.performed {engine : Engine} {node after : Node} {call : StoreCall}
    (proper : Proper engine node) (done : Performed call node after)
    (writes : ∀ key record, call = .write key record → (engine.resource? record.kind).isSome = true) :
    Proper engine after := by
  refine ⟨?_, done.guards.symm ▸ proper.sound, fun key record found => ?_⟩
  · rw [FaultPlan.Calm, done.schedule]
    exact proper.calm
  · rw [done.store, MemoryStore.record?_after] at found
    cases call with
    | write at' written =>
        dsimp only at found
        split at found
        · cases found
          exact writes at' _ rfl
        · exact proper.known key record found
    | remove at' =>
        dsimp only at found
        split at found
        · cases found
        · exact proper.known key record found
    | get | has | link | unlink | release | masters => exact proper.known key record found

/-- The node is proper still, the locks are those that were held before, the records of what is locked
    are still there unless they may be lost, and the masters have records. -/
structure StaysOwned (engine : Engine) (excused lost : ObjectKey → Prop) (node after : Node) : Prop where
  proper : Proper engine after
  guards : node.guards.Agrees after.guards
  kept : ∀ (key : ObjectKey) mode, node.guards.Holds key.text mode → ¬lost key →
    node.store.hasRecord key = true → after.store.hasRecord key = true
  owned : after.store.Owned excused

/-- The relation that completed runs respect: what is proper and has records for its masters stays so. -/
def KeepsOwned (engine : Engine) (excused : ObjectKey → Prop) (node after : Node) : Prop :=
  Proper engine node → node.store.Owned excused → StaysOwned engine excused (fun _ => False) node after

namespace StaysOwned

variable {engine : Engine} {excused lost : ObjectKey → Prop} {node mid after : Node} {key : ObjectKey}
  {call : StoreCall}

theorem settle (stays : StaysOwned engine (fun other => other = key ∨ excused other) lost node after)
    (settled : after.store.hasRecord key = true ∨ ∀ slave, ¬after.store.Relies key slave) :
    StaysOwned engine excused lost node after :=
  ⟨stays.proper, stays.guards, stays.kept, stays.owned.settle settled⟩

theorem whole (stays : StaysOwned engine excused (fun _ => False) node after) :
    StaysOwned engine excused lost node after :=
  ⟨stays.proper, stays.guards, fun key mode locked _ => stays.kept key mode locked id, stays.owned⟩

theorem trans (first : StaysOwned engine excused lost node mid)
    (second : Proper engine mid → mid.store.Owned excused → StaysOwned engine excused lost mid after) :
    StaysOwned engine excused lost node after := by
  have rest := second first.proper first.owned
  refine ⟨rest.proper, first.guards.trans rest.guards, fun key mode locked safe found => ?_, rest.owned⟩
  have still := first.kept key mode locked safe found
  exact rest.kept key mode (first.guards.holds_iff.mpr locked) safe still

/-- What an order must not do for things to stay as they are. -/
theorem performed (done : Performed call node after)
    (writes : ∀ key record, call = .write key record → (engine.resource? record.kind).isSome = true)
    (removes : ∀ key, call = .remove key → lost key)
    (links : ∀ master slave, call = .link master slave → excused master)
    (proper : Proper engine node) (owned : node.store.Owned excused) :
    StaysOwned engine excused lost node after := by
  refine ⟨proper.performed done writes, done.guards.symm ▸ .refl _, fun key mode _ safe found => ?_, ?_⟩
  · rw [done.store]
    exact MemoryStore.hasRecord_after (fun same => safe (removes key same)) found
  · rw [done.store]
    exact owned.after links

end StaysOwned

namespace KeepsOwned

variable {engine : Engine} {excused : ObjectKey → Prop} {node mid after : Node} {call : StoreCall}

theorem of_same (store : after.store = node.store) (guards : after.guards = node.guards)
    (schedule : after.faults.schedule = node.faults.schedule) : KeepsOwned engine excused node after := by
  intro proper owned
  refine ⟨⟨?_, guards ▸ proper.sound, store ▸ proper.known⟩, guards ▸ .refl _, ?_, store ▸ owned⟩
  · rw [FaultPlan.Calm, schedule]
    exact proper.calm
  · exact fun key mode _ _ found => store ▸ found

theorem refl (node : Node) : KeepsOwned engine excused node node := of_same rfl rfl rfl

theorem trans (first : KeepsOwned engine excused node mid) (second : KeepsOwned engine excused mid after) :
    KeepsOwned engine excused node after :=
  fun proper owned => (first proper owned).trans second

theorem consulted (asked : Consulted node after) : KeepsOwned engine excused node after :=
  of_same asked.store asked.guards asked.schedule

theorem unlinked {master slave : ObjectKey} (done : Performed (.unlink master slave) node after) :
    KeepsOwned engine excused node after :=
  .performed done (fun _ _ same => nomatch same) (fun _ same => nomatch same)
    fun _ _ same => nomatch same

theorem composed : Composed fun body => Achieves (KeepsOwned engine excused) body :=
  Achieves.composed refl fun _ _ _ => trans

theorem asks {ε α : Type} {body : Run ε α} (keeps : Keeps Consulted body) :
    Achieves (KeepsOwned engine excused) body :=
  fun node => (keeps node).imp fun _ _ asked _ => consulted asked

theorem within {ε α : Type} {frame : Frame} {body : Run ε α}
    (achieves : Achieves (KeepsOwned engine excused) body) :
    Achieves (KeepsOwned engine excused) (within frame body) := by
  intro node
  rw [ends_within]
  refine (achieves _).imp fun result after keeps completed => ?_
  have begins : KeepsOwned engine excused node (node.marked (.began frame)) := of_same rfl rfl rfl
  have finishes : KeepsOwned engine excused after (after.marked (.ended frame)) := of_same rfl rfl rfl
  exact trans (trans begins (keeps completed)) finishes

/-- What is left when a lock has been given back. Only what nobody else had locked may be lost. -/
theorem ends_guarded {ε α : Type} (lost : ObjectKey → Prop) {key : ObjectKey} {mode : LockMode}
    {body : Run ε α} (proper : Proper engine node)
    (runs : ∀ hold held, node.guards.take? key.text mode = some (hold, held) →
      Proper engine (node.withTable .shared held) →
      (∀ (other : ObjectKey) mode', lost other → ¬node.guards.Holds other.text mode') ∧
      body.Ends (node.withTable .shared held) fun result after => Completed result →
        StaysOwned engine excused lost (node.withTable .shared held) after) :
    (guarded .shared key mode body).Ends node fun result after => Completed result →
      StaysOwned engine excused (fun _ => False) node after := by
  rw [Run.ends_guarded]
  split
  · exact fun completed => completed.elim
  · next hold held taken =>
      have start : Proper engine (node.withTable .shared held) :=
        ⟨proper.calm, GuardTable.Sound.take? taken proper.sound, proper.known⟩
      obtain ⟨apart, ends⟩ := runs hold held taken start
      refine ends.imp fun result after both => ?_
      split
      · next left leaves =>
          intro completed
          obtain ⟨last, agrees, kept, owned⟩ := both completed
          obtain ⟨left', leaves', back, sound⟩ :=
            GuardTable.leave?_take? taken proper.sound agrees last.sound
          rw [show (after.table .shared).leave? key.text hold = some left' from leaves'] at leaves
          cases leaves
          refine ⟨⟨last.calm, sound, last.known⟩, back, fun other mode' locked _ found => ?_, owned⟩
          have still := (GuardTable.holds_take?_iff taken proper.sound).mpr (.inr locked)
          exact kept other mode' still (fun may => apart other mode' may locked) found
      · exact fun completed => completed.elim

theorem guarded {ε α : Type} {key : ObjectKey} {mode : LockMode} {body : Run ε α}
    (achieves : Achieves (KeepsOwned engine excused) body) :
    Achieves (KeepsOwned engine excused) (guarded .shared key mode body) := by
  intro node
  by_cases both : Proper engine node ∧ node.store.Owned excused
  · obtain ⟨proper, owned⟩ := both
    refine (ends_guarded (fun _ => False) proper fun hold held _ start =>
      ⟨fun _ _ => False.elim, ?_⟩).imp fun _ _ stays completed _ _ => stays completed
    exact (achieves _).imp fun result after keeps completed => keeps completed start owned
  · exact fun _ proper owned => absurd ⟨proper, owned⟩ both

section Dependency

variable {master slave : ObjectKey} {scope : Run ActionError RawJson} (own : excused master)

include own in
theorem addDependency (achieves : Achieves (KeepsOwned engine excused) scope) :
    Achieves (KeepsOwned engine excused) (engine.addDependency master slave scope) := by
  have resolves : Keeps Consulted (engine.resolve master slave) :=
    fun node => Engine.ends_resolve.imp fun _ _ both => both.1
  refine composed.bind (asks resolves) fun resource => within (guarded ?_)
  refine Engine.composed_holdReservation composed ?_ (within achieves) ?_ ?_
  · refine Achieves.mapError (fun node => ?_) _
    refine Engine.ends_checkAndReserve_any.imp fun _ after course _ => ?_
    rcases course with asked | ⟨-, done⟩
    · exact consulted asked
    · refine .performed done (fun _ _ same => nomatch same) (fun _ same => nomatch same) ?_
      intro m s same
      cases same
      exact own
  · exact fun _ _ => ends_withdraw.imp fun _ _ both _ =>
      both.2.elim (fun told => consulted told.1) fun undone => unlinked undone.2
  · exact fun event => asks fun node => .marked trivial

theorem removeDependency (achieves : Achieves (KeepsOwned engine excused) scope) :
    Achieves (KeepsOwned engine excused) (engine.removeDependency master slave scope) := by
  have looks : Keeps Consulted ((engine.resourceOf slave).mapError ActionError.engine) :=
    Keeps.mapError (fun node => ends_resourceOf.imp fun _ _ both => both.1) _
  rw [Engine.removeDependency_eq]
  refine composed.bind (asks looks) fun _ => within (guarded ?_)
  refine Engine.composed_holdRelease composed (within achieves) ?_ ?_
  · refine Achieves.mapError (fun node => ?_) _
    exact ends_demand_any.imp fun _ _ course _ => course.elim consulted unlinked
  · exact fun event => asks fun node => .marked trivial

end Dependency

/-- The program of a handler leaves masters with records if the calls in it do. -/
theorem program_run {nested : Call → Run EngineError Response} {kind : String} {object : ObjectKey}
    {program : Program} (registered : (engine.resource? kind).isSome = true) (own : excused object)
    (calls : ∀ call, Achieves (KeepsOwned engine excused) (nested call))
    (confined : program.Confined (OwnObject (.handler kind object))) :
    Achieves (KeepsOwned engine excused) (program.run engine nested) := by
  refine composed.program_run (fun _ node _ => refl node) (fun told => asks fun node => .marked trivial)
    ?_ ?_ (fun call _ => calls call) ?_ ?_ confined
  · intro key
    exact asks fun node => Consulted.refl node
  · intro call may node
    refine ends_ask (fun _ _ _ asked _ => consulted asked) fun after done _ => ?_
    rcases may with reads | ⟨data, rfl⟩
    · exact consulted (done.ofReads reads)
    · refine .performed done (fun key record same => ?_) (fun _ same => nomatch same)
        fun _ _ same => nomatch same
      cases same
      exact registered
  · intro master slave body same achieves
    exact addDependency (same ▸ own) achieves
  · exact fun master slave body _ achieves => removeDependency achieves

end KeepsOwned

/-- Wherever a program ends with a value that is run to create an object, it has stored a record for
    the object. -/
def Program.Stores (engine : Engine) (program : Program) (key : ObjectKey) : Prop :=
  ∀ depth (node done : Node) output, node.faults.Calm → node.guards.Sound →
    node.guards.Holds key.text .exclusive → node.store.hasRecord key = false →
    engine.run depth program node = (.ok output, done) → done.store.hasRecord key = true

section Dispatch

variable {engine : Engine} {excused : ObjectKey → Prop} {resource : Resource} {depth : Nat}
  {key : ObjectKey} {request : Request} {action : Action} {node : Node}

/-- What has become of the object itself while its handler ran. -/
theorem Resource.Handles.staysOwned {outcome : Except (Halt ActionError) RawJson} {done : Node}
    (handles : resource.Handles (engine.run depth) key request action node outcome done)
    (achieves : Achieves (KeepsOwned engine fun other => other = key ∨ excused other)
      (engine.run depth (action.handler key request.payload)))
    (proper : Proper engine node) (owned : node.store.Owned excused)
    (locked : node.guards.Holds key.text action.flags.mode) (completed : Completed outcome) :
    StaysOwned engine (fun other => other = key ∨ excused other) (fun _ => False) node
        (done.marked (.ended (resource.handlerFrame key request action))) ∧
      (action.flags.requiresNew = false → done.store.hasRecord key = true) := by
  obtain ⟨⟨mid, passed, ran⟩, admits, -⟩ := handles
  have begins : KeepsOwned engine (fun other => other = key ∨ excused other) node
      (mid.marked (.began (resource.handlerFrame key request action))) :=
    KeepsOwned.trans (.consulted passed) (.of_same rfl rfl rfl)
  have during := (achieves _).of_eq ran completed
  have finishes : KeepsOwned engine (fun other => other = key ∨ excused other) done
      (done.marked (.ended (resource.handlerFrame key request action))) := .of_same rfl rfl rfl
  have stays := ((begins.trans during).trans finishes) proper fun master slave edge =>
    (owned master slave edge).imp_right .inr
  refine ⟨stays, fun old => ?_⟩
  have found : node.store.hasRecord key = true := by simpa [old] using (admits proper.calm.honest).new
  exact stays.kept key _ locked id found

/-- Whatever succeeded on an object that was to be created or there, it is there. -/
theorem Resource.Handles.hasRecord {output : RawJson} {done : Node}
    (handles : resource.Handles (engine.run depth) key request action node (.ok output) done)
    (stores : action.flags.requiresNew = true →
      (action.handler key request.payload).Stores engine key)
    (old : action.flags.requiresNew = false → done.store.hasRecord key = true)
    (proper : Proper engine node) (locked : node.guards.Holds key.text action.flags.mode) :
    done.store.hasRecord key = true := by
  cases creates : action.flags.requiresNew with
  | false => exact old creates
  | true =>
      obtain ⟨⟨mid, passed, ran⟩, admits, -⟩ := handles
      have missing : node.store.hasRecord key = false := by
        simpa [creates] using (admits proper.calm.honest).new
      rw [ActionFlags.mode_of_requiresNew creates] at locked
      refine stores creates depth (mid.marked _) done output (passed.calm_iff.mpr proper.calm)
        ?_ ?_ ?_ ran
      · exact passed.guards.symm ▸ proper.sound
      · exact passed.guards.symm ▸ locked
      · exact passed.store.symm ▸ missing

/-- What a dispatch leaves under the lock of its object: only a delete loses the record. -/
theorem Resource.Concludes.staysOwned {result : Except (Halt EngineError) Response} {last : Node}
    (course : resource.Concludes (engine.run depth) key request action node result last)
    (achieves : Achieves (KeepsOwned engine fun other => other = key ∨ excused other)
      (engine.run depth (action.handler key request.payload)))
    (stores : action.flags.requiresNew = true →
      (action.handler key request.payload).Stores engine key)
    (alone : request.action = deleteAction → action.flags = .exclusive)
    (proper : Proper engine node) (owned : node.store.Owned excused)
    (locked : node.guards.Holds key.text action.flags.mode) (completed : Completed result) :
    StaysOwned engine excused (fun other => request.action = deleteAction ∧ other = key) node last := by
  have deletes : request.action = deleteAction → action.flags.requiresNew = false := by
    intro deleting
    rw [alone deleting]
    rfl
  cases course with
  | refused asked => exact .whole (KeepsOwned.consulted asked proper owned)
  | halted _ stopped => exact absurd completed (not_completed_of_caught stopped)
  | succeeded handles other =>
      obtain ⟨stays, old⟩ := handles.staysOwned achieves proper owned locked trivial
      exact .whole (stays.settle (.inl (handles.hasRecord stores old proper locked)))
  | deleted handles deleting removed =>
      obtain ⟨stays, old⟩ := handles.staysOwned achieves proper owned locked trivial
      have found := old (deletes deleting)
      have lost : ∀ other, StoreCall.remove key = .remove other →
          request.action = deleteAction ∧ other = key := by
        rintro other ⟨⟩
        exact ⟨deleting, rfl⟩
      have gone := stays.whole.trans <|
        .performed removed (fun _ _ same => nomatch same) lost fun _ _ same => nomatch same
      refine gone.settle (.inr fun slave edge => ?_)
      rw [removed.store, MemoryStore.relies_after] at edge
      exact edge.2 ⟨rfl, found⟩
  | undeleted handles deleting course =>
      obtain ⟨stays, old⟩ := handles.staysOwned achieves proper owned locked trivial
      obtain ⟨wrong, -⟩ | ⟨missing, -⟩ := course
      · exact absurd stays.proper.calm wrong
      · rw [old (deletes deleting)] at missing
        cases missing
  | @failed error done after handles kept asked =>
      obtain ⟨stays, old⟩ := handles.staysOwned achieves proper owned locked trivial
      have found : done.store.hasRecord key = true := by
        cases creates : action.flags.requiresNew with
        | true => exact kept creates stays.proper.calm.honest
        | false => exact old creates
      exact .whole ((stays.settle (.inl found)).trans (KeepsOwned.consulted asked))
  | gaveUp handles _ _ released =>
      obtain ⟨stays, -⟩ := handles.staysOwned achieves proper owned locked trivial
      have given := stays.trans <| .performed released (fun _ _ same => nomatch same)
        (fun _ same => nomatch same) fun _ _ same => nomatch same
      refine .whole (given.settle (.inr fun slave edge => ?_))
      rw [released.store, MemoryStore.relies_after] at edge
      exact edge.2 rfl
  | stuck handles wrong =>
      obtain ⟨stays, -⟩ := handles.staysOwned achieves proper owned locked trivial
      exact absurd stays.proper.calm wrong

theorem KeepsOwned.dispatch (shared : resource.guards = .shared)
    (alone : ∀ action, resource.action? Resource.deleteAction = some action → action.flags = .exclusive)
    (stores : ∀ action, resource.action? request.action = some action →
      action.flags.requiresNew = true → (action.handler key request.payload).Stores engine key)
    (handled : ∀ action, resource.action? request.action = some action →
      Achieves (KeepsOwned engine fun other => other = key ∨ excused other)
        (engine.run depth (action.handler key request.payload))) :
    Achieves (KeepsOwned engine excused) (resource.dispatch (engine.run depth) key request) := by
  rw [Resource.dispatch_eq, shared]
  split
  next unknown => exact composed.fail _
  next action described =>
    refine within fun node => ?_
    by_cases both : Proper engine node ∧ node.store.Owned excused
    · obtain ⟨proper, owned⟩ := both
      have exclusive : request.action = Resource.deleteAction → action.flags = .exclusive :=
        fun deleting => alone action (deleting ▸ described)
      refine (ends_guarded (fun other => request.action = Resource.deleteAction ∧ other = key) proper
        fun hold held taken start => ⟨?_, ?_⟩).imp
        fun _ _ stays completed _ _ => stays completed
      · -- A delete has its lock alone, so nobody else had its object locked.
        rintro other mode ⟨deleting, rfl⟩ locked
        refine GuardTable.not_holds_of_take?_exclusive taken ?_ locked
        rw [exclusive deleting]
        rfl
      · refine Resource.concludes_holdDispatch.imp fun result last course completed => ?_
        exact course.staysOwned (handled action described) (stores action described) exclusive start owned
          (GuardTable.holds_of_take? taken) completed
    · exact fun _ proper owned => absurd ⟨proper, owned⟩ both

end Dispatch

/-- What is asked of the handlers of an engine: they use the store for their own object only, and what
    creates an object stores a record for it if it succeeds. -/
structure Engine.Tidy (engine : Engine) : Prop where
  built : engine.Built
  confined : ∀ resource ∈ engine.resources, resource.Confined OwnObject
  stores : ∀ resource ∈ engine.resources, ∀ name action, resource.action? name = some action →
    action.flags.requiresNew = true → ∀ key payload, (action.handler key payload).Stores engine key

/-- Calls leave the masters with records, if they are completed, at every depth of nesting. -/
theorem KeepsOwned.call {engine : Engine} (tidy : engine.Tidy) (depth : Nat) (excused : ObjectKey → Prop)
    (call : Call) : Achieves (KeepsOwned engine excused) (engine.call depth call) := by
  induction depth generalizing excused call with
  | zero => exact fun _ halted => halted.elim
  | succ depth ih =>
      simp only [Engine.call]
      cases found : engine.resource? call.kind with
      | none => exact composed.fail _
      | some resource =>
          obtain ⟨member, named⟩ := Engine.mem_of_resource? found
          have known : (engine.resource? resource.name).isSome = true := by
            rw [named, found]
            rfl
          refine KeepsOwned.dispatch (tidy.built.guards member) (fun _ => tidy.built.deleteFlags member)
            (fun action described creates => tidy.stores resource member _ action described creates _ _)
            fun action described => ?_
          exact KeepsOwned.program_run known (.inl rfl) (fun inner => ih _ inner)
            (tidy.confined resource member _ action described _ _)

end Provision
