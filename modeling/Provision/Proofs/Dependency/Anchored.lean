import Provision.Proofs.Engine.Assembly
import Provision.Proofs.Engine.Framing
import Provision.Proofs.Run.Orderly

/-! # Nothing relies on what is not there

A reservation finds its slave under a lock and records its edge before the lock is given back. A
delete finds its object without masters under an exclusive lock, and until the record is gone nobody
else can take that lock, so no master comes in between, whatever the handler does.
-/

namespace Provision

open Run Node

namespace MemoryStore

variable {store : MemoryStore} {call : StoreCall} {key master slave : ObjectKey}

/-- Whatever is relied on has a record. -/
def Anchored (store : MemoryStore) : Prop :=
  ∀ master slave, store.Relies master slave → store.hasRecord slave = true

theorem anchored_empty : empty.Anchored := fun _ _ edge => absurd edge not_relies_empty

/-- An order leaves everything anchored if it removes nothing that is relied on, and records edges to
    what is there only. -/
theorem Anchored.after (anchored : store.Anchored)
    (removes : ∀ key, call = .remove key → ∀ master, ¬store.Relies master key)
    (links : ∀ master slave, call = .link master slave → store.hasRecord slave = true) :
    (store.after call).Anchored := by
  intro master slave edge
  have old : store.Relies master slave ∨ call = .link master slave := by
    rw [relies_after] at edge
    cases call with
    | link a b => exact edge.symm.imp id fun both => by rw [both.1, both.2]
    | unlink | release | remove => exact .inl edge.1
    | get | has | write | masters => exact .inl edge
  have found : store.hasRecord slave = true := by
    rcases old with old | new
    · exact anchored master slave old
    · exact links master slave new
  refine hasRecord_after (fun same => ?_) found
  rcases old with old | new
  · exact removes slave same master old
  · rw [new] at same
    cases same

end MemoryStore

/-- Whatever is relied on at a moment has a record. -/
def AnchoredAt (past : List Mark) : Prop := (storeAfter past).Anchored

/-- What an actor may do if it is to leave edges and the removal of records to the engine. -/
def LeavesLedger (_ : Actor) (deed : Deed) : Prop :=
  (∀ key, deed ≠ .store (.remove key)) ∧ ∀ master slave, deed ≠ .store (.link master slave)

/-- The same locks are held, and nothing that was locked exclusively has got another master. -/
structure Secures (node after : Node) : Prop where
  guards : node.guards.Agrees after.guards
  masters : ∀ key : ObjectKey, node.guards.Holds key.text .exclusive →
    ∀ master, after.store.Relies master key → node.store.Relies master key

theorem Secures.trans {a b c : Node} (first : Secures a b) (second : Secures b c) :
    Secures a c where
  guards := first.guards.trans second.guards
  masters key held master edge :=
    first.masters key held master
      (second.masters key (first.guards.holds_iff.mpr held) master edge)

theorem Secures.consulted {node after : Node} (asked : Consulted node after) : Secures node after where
  guards := asked.guards ▸ .refl _
  masters _ _ _ edge := asked.store ▸ edge

theorem Secures.performed {node after : Node} {call : StoreCall} (done : Performed call node after)
    (links : ∀ master slave, call = .link master slave →
      ¬node.guards.Holds slave.text .exclusive) : Secures node after where
  guards := done.guards ▸ .refl _
  masters key held master edge := by
    rw [done.store, MemoryStore.relies_after] at edge
    cases call with
    | link a b =>
        rcases edge with ⟨rfl, rfl⟩ | old
        · exact absurd held (links _ _ rfl)
        · exact old
    | unlink | release | remove => exact edge.1
    | get | has | write | masters => exact edge

/-- An orderly node stays one, everything stays anchored, and what is locked is secure. -/
def KeepsAnchored (node after : Node) : Prop :=
  node.Orderly AnchoredAt → after.Orderly AnchoredAt ∧ Secures node after

namespace KeepsAnchored

variable {node mid after : Node} {call : StoreCall} {master slave key : ObjectKey}

theorem idle (mark : Mark) (past : List Mark) (idle : mark.Idle) (anchored : AnchoredAt past) :
    AnchoredAt (mark :: past) := by
  rw [AnchoredAt, idle.storeAfter]
  exact anchored

theorem framing : Framing (fun _ => True) KeepsAnchored where
  refl node orderly := ⟨orderly, .refl _, fun _ _ _ edge => edge⟩
  trans a b c first second orderly := by
    obtain ⟨between, before⟩ := first orderly
    obtain ⟨last, rest⟩ := second between
    exact ⟨last, before.trans rest⟩
  consulted asked orderly := ⟨orderly.consulted idle asked, .consulted asked⟩
  began node frame _ orderly :=
    ⟨orderly.marked rfl orderly.traced.now, .refl _, fun _ _ _ edge => edge⟩
  ended node frame _ orderly :=
    ⟨orderly.marked rfl orderly.traced.now, .refl _, fun _ _ _ edge => edge⟩

/-- What an order must not do for things to stay as they are. -/
theorem performed (done : Performed call node after)
    (removes : ∀ key, call = .remove key → ∀ master, ¬node.store.Relies master key)
    (links : ∀ master slave, call = .link master slave → node.store.hasRecord slave = true ∧
      ¬node.guards.Holds slave.text .exclusive) : KeepsAnchored node after := by
  intro orderly
  refine ⟨orderly.performed idle done fun past store _ anchored => ?_, .performed done ?_⟩
  · rw [AnchoredAt, storeAfter]
    refine MemoryStore.Anchored.after anchored ?_ ?_
    · rw [store]
      exact removes
    · rw [store]
      exact fun master slave same => (links master slave same).1
  · exact fun master slave same => (links master slave same).2

/-- Other orders than those that remove records and add edges change nothing that matters. -/
theorem ordered (done : Performed call node after) (removes : ∀ key, call ≠ .remove key)
    (links : ∀ master slave, call ≠ .link master slave) : KeepsAnchored node after :=
  performed done (fun key same => absurd same (removes key))
    fun master slave same => absurd same (links master slave)

/-- What is done under a lock of the engine keeps things in order outside of it. -/
theorem locking : Locking KeepsAnchored where
  toFraming := framing
  guarded {ε α node key mode body} runs := by
    intro orderly
    have ends : (Run.guarded .shared key mode body).Ends node fun _ after =>
        after.Orderly AnchoredAt ∧ Secures node after := by
      refine orderly.guarded ⟨.refl _, fun _ _ _ edge => edge⟩ fun hold held taken start => ?_
      refine (runs hold held taken).imp fun result after keeps => ?_
      obtain ⟨last, secures⟩ := keeps start
      refine ⟨last, secures.guards, fun left agrees => ⟨agrees, fun key locked master edge => ?_⟩⟩
      refine secures.masters key ?_ master edge
      exact (GuardTable.holds_take?_iff taken orderly.sound).mpr (.inr locked)
    exact ends
  paired keeps orderly := keeps orderly.traced.paired orderly
  unlinked undone := ordered undone (fun _ same => nomatch same) fun _ _ same => nomatch same

theorem dispatch {resource : Resource} {run : Program → Run ActionError RawJson} {key : ObjectKey}
    {request : Request} (shared : resource.guards = .shared)
    (alone : ∀ action, resource.action? Resource.deleteAction = some action →
      action.flags.mode = .exclusive)
    (handled : ∀ action, resource.action? request.action = some action →
      Keeps KeepsAnchored (run (action.handler key request.payload))) :
    Keeps KeepsAnchored (resource.dispatch run key request) := by
  rw [Resource.dispatch_eq]
  split
  next unknown => exact Keeps.throw framing.refl _
  next action described =>
    have handler := handled action described
    rw [shared]
    refine fun start => framing.within trivial (locking.guarded fun hold held taken => ?_)
    generalize start.marked _ = node at taken
    refine Resource.ends_holdDispatch.imp fun _ after course => ?_
    cases course with
    | refused asked => exact framing.consulted asked
    | handled passed _ ran asked =>
        exact framing.trans (framing.framed handler passed ran trivial) (framing.consulted asked)
    | gaveUp passed _ _ ran _ released =>
        refine framing.trans (framing.framed handler passed ran trivial) (ordered released ?_ ?_)
        · exact fun key same => nomatch same
        · exact fun master slave same => nomatch same
    | deleted passed _ deleting unused ran removed =>
        intro orderly
        have during := framing.framed handler passed ran trivial
        obtain ⟨between, secures⟩ := during orderly
        refine framing.trans during (performed removed ?_ fun _ _ same => nomatch same) orderly
        intro key' same master edge
        cases same
        -- The handler ran under the writer lock, so it let no master in.
        rw [deleting] at described
        rw [alone action described] at taken
        have locked : held.Holds key.text .exclusive := GuardTable.holds_of_take? taken
        have old := secures.masters key locked master edge
        exact orderly.traced.paired.mastersOf_eq_nil_iff.mp unused master old

theorem addResolved {resource : Resource} {scope : Run ActionError RawJson}
    (keeps : Keeps KeepsAnchored scope) :
    Keeps KeepsAnchored (Engine.addResolved resource master slave scope) := by
  refine fun node => locking.addResolved keeps fun _ free found reserved orderly => ?_
  cases reserved with
  | recorded done =>
      refine performed done (fun _ same => nomatch same) (fun m s same => ?_) orderly
      cases same
      exact ⟨found orderly.honest, free⟩

theorem upheld {engine : Engine} (built : engine.Built) :
    Upheld engine (· ∈ engine.resources) LeavesLedger fun _ => KeepsAnchored where
  refl _ := framing.refl
  trans first second := framing.trans first second
  note _ node told := framing.consulted (.marked trivial)
  ask _ call may node := by
    refine ends_ask (fun _ _ _ => framing.consulted) fun after done => ordered done ?_ ?_
    · exact fun key same => may.1 key (by rw [same])
    · exact fun master slave same => may.2 master slave (by rw [same])
  dispatch _ resource run key request member handled := by
    refine dispatch (built.guards member) (fun action found => ?_) handled
    rw [ActionFlags.mode, built.deleteFlags member found]
    rfl
  add _ _ _ _ _ keeps := framing.addDependency fun node _ _ _ _ _ => addResolved keeps node
  remove _ _ _ _ _ := locking.removeDependency

end KeepsAnchored

/-- Whatever is relied on has a record, at every moment of every run from an empty store in which
    edges are recorded and records removed through the engine only. The store may fail, but not answer
    wrongly. -/
theorem serve_anchored {engine : Engine} (built : engine.Built) (depth : Nat) {faults : FaultPlan}
    (honest : faults.Honest) {operations : List Operation}
    (handlers : ∀ resource ∈ engine.resources, resource.Confined LeavesLedger)
    (callers : ∀ operation ∈ operations, operation.Confined (· ∈ engine.resources) LeavesLedger) :
    (engine.serve depth { faults } operations).Traced fun past => (storeAfter past).Anchored :=
  ((KeepsAnchored.upheld built).serve (fun _ => id) handlers depth { faults } callers
    (orderly_start honest MemoryStore.anchored_empty)).1.traced

/-- A disk is deleted while it is reserved, and again once it is released. -/
def Small.deletions : List Operation :=
  [.program (act "disk" "create" "a"),
    .program (reserve "vm" "a" (act "disk" "delete" "a") (.ok .null)),
    .program (act "disk" "delete" "a"),
    .program (.depend .remove (object "vm") (object "a") (.done (.ok .null)) .done),
    .program (act "disk" "delete" "a")]

/-- The disk is there as long as it is reserved, whoever tries to delete it. -/
theorem serve_anchored_deletions :
    (Small.engine.Built ∧ FaultPlan.none.Honest ∧
      (∀ resource ∈ Small.engine.resources, resource.Confined LeavesLedger) ∧
      ∀ operation ∈ Small.deletions, operation.Confined (· ∈ Small.engine.resources) LeavesLedger) ∧
    (Small.engine.serve 9 { faults := .none } (Small.deletions.take 3)).store.edges =
      [(Small.object "vm", Small.object "a")] ∧
    (Small.engine.serve 9 { faults := .none } Small.deletions).Traced
      fun past => (storeAfter past).Anchored := by
  have handlers : ∀ resource ∈ Small.engine.resources, resource.Confined LeavesLedger :=
    Small.engine_confined fun _ _ => by simp [LeavesLedger]
  have callers : ∀ operation ∈ Small.deletions,
      operation.Confined (· ∈ Small.engine.resources) LeavesLedger := by
    simp [Small.deletions, Small.act, Small.reserve, Operation.Confined, Program.Confined,
      LeavesLedger]
  refine ⟨⟨Small.engine_built, FaultPlan.calm_none.honest, handlers, callers⟩, ?_, ?_⟩
  · decide +kernel
  · exact serve_anchored Small.engine_built 9 FaultPlan.calm_none.honest handlers callers

end Provision
