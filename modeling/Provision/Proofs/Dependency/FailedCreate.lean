import Provision.Proofs.Engine.Assembly
import Provision.Proofs.Engine.Framing

/-! # What a failed create leaves in the ledger

A create that fails gives up what its object relies on. While its handler runs it touches only edges of
its own object, so the edges of all others are as they were. But what is given up is not only what the
handler has reserved: an edge that was recorded earlier, for an object that is still to be made, goes
with it.
-/

namespace Provision

open Run Node

/-- What the handler of an object may do if it is only to reserve things for the object: it may ask, and
    reserve, but it stores nothing. -/
def ReservesFor (key : ObjectKey) : Deed → Prop
  | .store call => call.Reads
  | .call _ => False
  | .depend change master _ => change = .add ∧ master = key

/-- All records are as they were, and all edges of masters other than one. -/
structure EdgesChangedOnlyOf (key : ObjectKey) (node after : Node) : Prop where
  schedule : after.faults.schedule = node.faults.schedule
  records : after.store.records = node.store.records
  edges : ∀ master slave, master ≠ key →
    (after.store.Relies master slave ↔ node.store.Relies master slave)

namespace EdgesChangedOnlyOf

variable {key slave : ObjectKey} {node after : Node}

theorem of_store (schedule : after.faults.schedule = node.faults.schedule)
    (same : after.store = node.store) : EdgesChangedOnlyOf key node after where
  schedule := schedule
  records := by rw [same]
  edges _ _ _ := by rw [same]

theorem lockless : Lockless (fun _ => True) (EdgesChangedOnlyOf key) where
  refl _ := of_store rfl rfl
  trans _ _ _ first second := ⟨second.schedule.trans first.schedule,
    second.records.trans first.records,
    fun master slave other => (second.edges master slave other).trans (first.edges master slave other)⟩
  consulted asked := of_store asked.schedule asked.store
  began _ _ _ := of_store rfl rfl
  ended _ _ _ := of_store rfl rfl
  table _ _ _ := of_store (by rw [faults_withTable]) store_withTable

theorem linked (done : Performed (.link key slave) node after) : EdgesChangedOnlyOf key node after where
  schedule := done.schedule
  records := by rw [done.store]; rfl
  edges master other different := by
    rw [done.store, MemoryStore.relies_after]
    exact or_iff_right fun both => different both.1

theorem unlinked (done : Performed (.unlink key slave) node after) : EdgesChangedOnlyOf key node after where
  schedule := done.schedule
  records := by rw [done.store]; rfl
  edges master other different := by
    rw [done.store, MemoryStore.relies_after]
    exact and_iff_left fun both => different both.1

/-- Whatever only reserves for an object spares all others. -/
theorem upheld (engine : Engine) :
    Upheld engine (fun _ => False) (fun _ => ReservesFor key) fun _ => EdgesChangedOnlyOf key where
  refl _ := lockless.refl
  trans first second := lockless.trans first second
  note _ _ _ := of_store rfl rfl
  ask _ _ may _ := ends_ask (fun _ _ _ => lockless.consulted)
    fun _ done => lockless.consulted (done.ofReads may)
  dispatch _ _ _ _ _ known := known.elim
  add _ master slave body may keeps := by
    obtain ⟨-, rfl⟩ := may
    refine lockless.addDependency fun node resource _ _ _ _ => ?_
    refine lockless.within trivial (lockless.guarded fun _ _ _ => ?_)
    exact lockless.toFraming.holdReservation linked unlinked trivial keeps _
  remove _ _ _ _ may := nomatch may.1

end EdgesChangedOnlyOf

/-- What a create leaves that fails: no edge of its object. -/
theorem Resource.Concludes.released {resource : Resource} {run : Program → Run ActionError RawJson}
    {key : ObjectKey} {request : Request} {action : Action} {node after : Node} {response : Response}
    (course : resource.Concludes run key request action node (.ok response) after)
    (failed : response.payload = none) (creates : action.flags.requiresNew = true)
    (honest : node.faults.Honest)
    (keeps : Keeps (EdgesChangedOnlyOf key) (run (action.handler key request.payload))) :
    after.store.records = node.store.records ∧ ∀ master slave, after.store.Relies master slave ↔
      node.store.Relies master slave ∧ master ≠ key := by
  have handled : ∀ {outcome done}, resource.Handles run key request action node outcome done →
      EdgesChangedOnlyOf key node (done.marked (.ended (resource.handlerFrame key request action))) ∧
        node.store.hasRecord key = false := by
    intro outcome done handles
    obtain ⟨⟨mid, passed, ran⟩, admits, -⟩ := handles
    refine ⟨EdgesChangedOnlyOf.lockless.framed keeps passed ran trivial, ?_⟩
    simpa [creates] using (admits honest).new
  cases course with
  | succeeded | deleted => cases failed
  | @failed error done after handles kept =>
      obtain ⟨spares, missing⟩ := handled handles
      have still : done.store.hasRecord key = node.store.hasRecord key :=
        congrArg (·.contains key) spares.records
      have truly : done.faults.Honest := fun operation n claimed planned =>
        honest operation n claimed (spares.schedule ▸ planned)
      have found := kept creates truly
      rw [still, missing] at found
      cases found
  | @gaveUp error done after handles _ _ released =>
      obtain ⟨spares, -⟩ := handled handles
      refine ⟨?_, fun master slave => ?_⟩
      · rw [released.store, ← spares.records]
        exact MemoryStore.records_unlinkAll
      · rw [released.store, MemoryStore.relies_after]
        exact and_congr_left fun other => spares.edges master slave other

/-- After a create that fails, whose handler only reserves things for its object, the records are those
    there were before, and the object relies on nothing any more, also not on what was reserved for it
    before. So the ledger is as it was just if nothing had been reserved. -/
theorem failed_create_releases {engine : Engine} {depth : Nat} {resource : Resource} {key : ObjectKey}
    {request : Request} {action : Action} {node after : Node} {response : Response}
    (described : resource.action? request.action = some action)
    (creates : action.flags.requiresNew = true)
    (reserves : (action.handler key request.payload).Confined (ReservesFor key))
    (honest : node.faults.Honest)
    (returned : resource.dispatch (engine.run depth) key request node = (.ok response, after))
    (failed : response.payload = none) :
    after.store.records = node.store.records ∧
    (∀ master slave, after.store.Relies master slave ↔
      node.store.Relies master slave ∧ master ≠ key) ∧
    ((∀ master slave, after.store.Relies master slave ↔ node.store.Relies master slave) ↔
      ∀ slave, ¬node.store.Relies key slave) := by
  have keeps : Keeps (EdgesChangedOnlyOf key) (engine.run depth (action.handler key request.payload)) :=
    (EdgesChangedOnlyOf.upheld engine).program_run .caller (fun _ never => never.elim) reserves
  have ends : (resource.dispatch (engine.run depth) key request).Ends node fun result last =>
      ∀ response, result = .ok response → response.payload = none →
        last.store.records = node.store.records ∧ ∀ master slave,
          last.store.Relies master slave ↔ node.store.Relies master slave ∧ master ≠ key := by
    rw [Resource.dispatch_eq, described, ends_within, ends_guarded]
    split
    next => exact fun response same => nomatch same
    next hold held _ =>
      refine Resource.concludes_holdDispatch.imp fun result last course => ?_
      split
      next left _ =>
        rintro response rfl failed
        have released := course.released failed creates (by rwa [faults_withTable]) keeps
        rw [store_withTable] at released
        rw [Node.marked, store_withTable]
        exact released
      next => exact fun response same => nomatch same
  obtain ⟨records, edges⟩ := ends.of_eq returned response rfl failed
  refine ⟨records, edges, fun same slave edge => ?_, fun unused master slave => ?_⟩
  · exact ((edges key slave).mp ((same key slave).mpr edge)).2 rfl
  · rw [edges]
    exact and_iff_left_of_imp fun edge same => unused slave (same ▸ edge)

namespace Small

/-- Creating reserves a disk and fails then. -/
def failing : Resource where
  name := "vm"
  flags := .exclusive
  actions := [("create", ⟨fun key _ => .depend .add key (object "a") (.done (.ok .null)) fun _ =>
    .done (.error (.failed "no capacity")), .create⟩)]

/-- Two disks are there, and one of them is reserved for an object that is still to be created. -/
def awaiting : Node where
  store := (engine.serve 9 .empty [.program (act "disk" "create" "a"),
    .program (act "disk" "create" "b"),
    .program (reserve "vm" "b" (.done (.ok .null)) (.ok .null))]).store

/-- The creation that fails. -/
def failed : Except (Halt EngineError) Response × Node :=
  failing.dispatch (engine.run 9) (object "vm") { action := "create", object := "vm" } awaiting

theorem failed_fst : failed.1 = .ok { error := "no capacity" } := by decide +kernel

theorem failing_reserves {name : String} {action : Action} (found : failing.action? name = some action)
    (key : ObjectKey) (payload : RawJson) :
    action.flags.requiresNew = true ∧ (action.handler key payload).Confined (ReservesFor key) := by
  have member := Resource.mem_of_action? found
  simp only [failing, List.mem_singleton, Prod.mk.injEq] at member
  obtain ⟨-, rfl⟩ := member
  exact ⟨rfl, ⟨rfl, rfl⟩, trivial, fun _ => trivial⟩

end Small

/-- The edge that was there before the failed create is gone after it. -/
theorem failed_create_loses_earlier :
    (∀ name action, Small.failing.action? name = some action → ∀ key payload,
      action.flags.requiresNew = true ∧ (action.handler key payload).Confined (ReservesFor key)) ∧
    Small.failed.1 = .ok { error := "no capacity" } ∧
    Small.awaiting.store.Relies (Small.object "vm") (Small.object "b") ∧
    ¬Small.failed.2.store.Relies (Small.object "vm") (Small.object "b") :=
  ⟨fun _ _ found => Small.failing_reserves found, Small.failed_fst, by decide +kernel,
    by decide +kernel⟩

/-- The general statement for this create: the disk reserved before is free again. -/
theorem failed_create_releases_disk :
    (∃ action, Small.failing.action? "create" = some action ∧ action.flags.requiresNew = true ∧
      (action.handler (Small.object "vm") .null).Confined (ReservesFor (Small.object "vm")) ∧
      Small.awaiting.faults.Honest ∧ Small.failed.1 = .ok { error := "no capacity" }) ∧
    Small.failed.2.store.records = Small.awaiting.store.records ∧
    ¬Small.failed.2.store.Relies (Small.object "vm") (Small.object "b") := by
  obtain ⟨action, described⟩ : ∃ action, Small.failing.action? "create" = some action := ⟨_, rfl⟩
  obtain ⟨creates, reserves⟩ := Small.failing_reserves described (Small.object "vm") .null
  have honest : Small.awaiting.faults.Honest := FaultPlan.calm_none.honest
  have returned : Small.failed = (.ok { error := "no capacity" }, Small.failed.2) := by
    rw [← Small.failed_fst]
  have general := failed_create_releases described creates reserves honest returned rfl
  refine ⟨⟨action, described, creates, reserves, honest, Small.failed_fst⟩, general.1, ?_⟩
  rw [general.2.1]
  exact fun both => both.2 rfl

end Provision
