import Provision.Proofs.Engine.Conduct
import Provision.Proofs.Engine.Dispatch

/-! # Relations that follow the frames of the engine

What the engine's operations leave is put together from few steps: questions, frames that begin and
end, locks taken and given back, one order here and there. A relation that is not disturbed by
questions and frames is followed through the engine's operations; if it is indifferent to locks too, it
is respected by a dispatch as soon as it is respected by its handler and by the orders that may follow.
-/

namespace Provision

open Run Node Relation

/-- A relation that questions and some kinds of frames do not disturb. -/
structure Framing (frames : Frame → Prop) (R : Node → Node → Prop) : Prop where
  refl : ∀ node, R node node
  trans : ∀ ⦃a b c⦄, R a b → R b c → R a c
  consulted : ∀ {node after}, Consulted node after → R node after
  began : ∀ node (frame : Frame), frames frame → R node (node.marked (.began frame))
  ended : ∀ node (frame : Frame), frames frame → R node (node.marked (.ended frame))

namespace Framing

variable {ε α : Type} {frames : Frame → Prop} {R : Node → Node → Prop}
  (framing : Framing frames R)

include framing

theorem within {frame : Frame} {body : Run ε α} {node : Node} (may : frames frame)
    (ends : body.Ends (node.marked (.began frame)) fun _ after =>
      R (node.marked (.began frame)) after) :
    (within frame body).Ends node fun _ after => R node after := by
  rw [ends_within]
  refine ends.imp fun result after related => ?_
  exact framing.trans (framing.trans (framing.began node frame may) related)
    (framing.ended after frame may)

/-- What runs in a frame after questions is respected with the frame. -/
theorem framed {frame : Frame} {body : Run ε α} {outcome : Except (Halt ε) α} {node mid done : Node}
    (keeps : Keeps R body) (passed : Consulted node mid)
    (ran : body (mid.marked (.began frame)) = (outcome, done)) (may : frames frame) :
    R node (done.marked (.ended frame)) := by
  have before : R node (mid.marked (.began frame)) :=
    framing.trans (framing.consulted passed) (framing.began mid frame may)
  have during : R (mid.marked (.began frame)) done := keeps.of_eq ran
  exact framing.trans (framing.trans before during) (framing.ended done frame may)

variable {engine : Engine} {resource : Resource} {master slave : ObjectKey}
  {scope : Run ActionError RawJson}

/-- Beginning a reservation is asking, until the resource of the slave is known. -/
theorem addDependency
    (resolved : ∀ node resource record, master ≠ slave → node.store.record? slave = some record →
      engine.resource? record.kind = some resource →
      (Engine.addResolved resource master slave scope).Ends node fun _ after => R node after) :
    Keeps R (engine.addDependency master slave scope) := by
  intro node
  refine Engine.ends_resolve.bind ?_ fun halt mid both => framing.consulted both.1
  intro resource mid both
  obtain ⟨asked, different, record, stored, registered⟩ := both
  rw [← asked.store] at stored
  exact (resolved mid resource record different stored registered).imp
    fun _ _ related => framing.trans (framing.consulted asked) related

/-- Beginning a release is asking for the resource of the slave. -/
theorem removeDependency
    (locked : Keeps R (Run.within (.dependency .remove slave)
      (Run.guarded .shared slave .shared (Engine.holdRelease master slave scope)))) :
    Keeps R (engine.removeDependency master slave scope) := by
  rw [Engine.removeDependency_eq]
  refine Keeps.bind framing.trans (Keeps.mapError (fun node => ?_) _) fun _ => locked
  exact ends_resourceOf.imp fun _ _ both => framing.consulted both.1

theorem holdReservation
    (linked : ∀ {node after}, Performed (.link master slave) node after → R node after)
    (unlinked : ∀ {node after}, Performed (.unlink master slave) node after → R node after)
    (may : frames (.scope .add slave)) (keeps : Keeps R scope) :
    Keeps R (Engine.holdReservation resource master slave scope) := by
  refine Engine.composed_holdReservation (Keeps.composed framing.refl framing.trans) ?_
    (fun node => framing.within may (keeps _)) ?_ fun _ _ => framing.consulted (.marked trivial)
  · exact Keeps.mapError (fun _ => Engine.ends_checkAndReserve_any.imp fun _ _ course =>
      course.elim framing.consulted fun made => linked made.2) _
  · exact fun _ _ => ends_withdraw.imp fun _ _ both =>
      both.2.elim (fun told => framing.consulted told.1) fun undone => unlinked undone.2

theorem holdRelease
    (unlinked : ∀ {node after}, Performed (.unlink master slave) node after → R node after)
    (may : frames (.scope .remove slave)) (keeps : Keeps R scope) :
    Keeps R (Engine.holdRelease master slave scope) := by
  refine Engine.composed_holdRelease (Keeps.composed framing.refl framing.trans)
    (fun node => framing.within may (keeps _)) ?_ fun _ _ => framing.consulted (.marked trivial)
  exact Keeps.mapError (fun _ => ends_demand_any.imp fun _ _ course =>
    course.elim framing.consulted unlinked) _

theorem holdDispatch {run : Program → Run ActionError RawJson}
    {key : ObjectKey} {request : Request} {action : Action}
    (released : ∀ {node after}, Performed (.release key) node after → R node after)
    (removed : ∀ {node after}, Performed (.remove key) node after → R node after)
    (may : frames (resource.handlerFrame key request action))
    (keeps : Keeps R (run (action.handler key request.payload))) :
    Keeps R (resource.holdDispatch run key request action) := by
  refine fun node => Resource.ends_holdDispatch.imp fun _ after course => ?_
  cases course with
  | refused asked => exact framing.consulted asked
  | handled passed _ ran asked =>
      exact framing.trans (framing.framed keeps passed ran may) (framing.consulted asked)
  | deleted passed _ _ _ ran gone =>
      exact framing.trans (framing.framed keeps passed ran may) (removed gone)
  | gaveUp passed _ _ ran _ given =>
      exact framing.trans (framing.framed keeps passed ran may) (released given)

end Framing

/-- A relation that locks do not disturb either. -/
structure Lockless (frames : Frame → Prop) (R : Node → Node → Prop) : Prop
    extends Framing frames R where
  table : ∀ node scope table, R node (node.withTable scope table)

namespace Lockless

variable {ε α : Type} {frames : Frame → Prop} {R : Node → Node → Prop}
  (lockless : Lockless frames R)

include lockless

theorem guarded {scope : GuardScope} {key : ObjectKey} {mode : LockMode} {body : Run ε α} {node : Node}
    (runs : ∀ hold held, (node.table scope).take? key.text mode = some (hold, held) →
      body.Ends (node.withTable scope held) fun _ after => R (node.withTable scope held) after) :
    (guarded scope key mode body).Ends node fun _ after => R node after := by
  rw [ends_guarded]
  split
  · exact lockless.refl node
  · next hold held taken =>
      refine (runs hold held taken).imp fun result after related => ?_
      have before := lockless.trans (lockless.table node scope held) related
      split
      · exact lockless.trans before (lockless.table _ _ _)
      · exact before

/-- A dispatch is respected if its handler is, and the order that may follow it. -/
theorem dispatch {resource : Resource} {run : Program → Run ActionError RawJson} {key : ObjectKey}
    {request : Request} (calls : ∀ span mode, frames (.dispatch span mode))
    (handlers : ∀ span mode, frames (.handler span mode))
    (released : ∀ {node after}, Performed (.release key) node after → R node after)
    (removed : ∀ {node after}, Performed (.remove key) node after → R node after)
    (handled : ∀ action, resource.action? request.action = some action →
      Keeps R (run (action.handler key request.payload))) :
    Keeps R (resource.dispatch run key request) := by
  rw [Resource.dispatch_eq]
  split
  next unknown => exact Keeps.throw lockless.refl _
  next action described =>
    refine fun node => lockless.within (calls _ _) (lockless.guarded fun hold held taken => ?_)
    exact lockless.toFraming.holdDispatch released removed (handlers _ _) (handled action described) _

omit lockless in
/-- What questions, frames, locks and orders do not disturb is not disturbed by any program. -/
theorem upheld {engine : Engine} (lockless : Lockless (fun _ => True) R)
    (ordered : ∀ {node after call}, Performed call node after → R node after) :
    Upheld engine (fun _ => True) (fun _ _ => True) fun _ => R where
  refl _ := lockless.refl
  trans first second := lockless.trans first second
  note _ _ _ := lockless.consulted (.marked trivial)
  ask _ _ _ _ := ends_ask (fun _ _ _ => lockless.consulted) fun _ done => ordered done
  dispatch _ _ _ _ _ _ handled :=
    lockless.dispatch (fun _ _ => trivial) (fun _ _ => trivial) ordered ordered handled
  add _ _ _ _ _ keeps := lockless.addDependency fun _ _ _ _ _ _ =>
    lockless.within trivial <| lockless.guarded fun _ _ _ =>
      lockless.toFraming.holdReservation ordered ordered trivial keeps _
  remove _ _ _ _ _ keeps := lockless.removeDependency fun _ =>
    lockless.within trivial <| lockless.guarded fun _ _ _ =>
      lockless.toFraming.holdRelease ordered trivial keeps _

end Lockless

/-! ## Into locks and out of them -/

/-- A relation that is followed into the locks of the engine and out of them, and that the loss of an
    edge does not disturb. -/
structure Locking (R : Node → Node → Prop) : Prop extends Framing (fun _ => True) R where
  guarded : ∀ {ε α : Type} {node : Node} {key : ObjectKey} {mode : LockMode} {body : Run ε α},
    (∀ hold held, node.guards.take? key.text mode = some (hold, held) →
      body.Ends (node.withTable .shared held) fun _ after => R (node.withTable .shared held) after) →
    (Run.guarded .shared key mode body).Ends node fun _ after => R node after
  paired : ∀ {node after}, (node.store.Paired → R node after) → R node after
  unlinked : ∀ {node after} {master slave : ObjectKey}, Performed (.unlink master slave) node after →
    R node after

namespace Locking

variable {R : Node → Node → Prop} (locking : Locking R) {engine : Engine} {resource : Resource}
  {master slave : ObjectKey} {scope : Run ActionError RawJson} {node after : Node}

include locking

theorem reserves (keeps : Keeps R scope)
    (recorded : ∀ {mid}, (node.faults.Honest → node.store.hasRecord slave = true) →
      Reserved resource master slave node (.ok true) mid → R node mid)
    (course : Engine.Reserves resource master slave scope node after) : R node after := by
  have checked : ∀ {result mid}, Checked resource master slave node (.ok result) mid → R node mid := by
    intro result mid known
    cases known with
    | present found reserved =>
        cases result with
        | true => exact recorded found reserved
        | false =>
            cases reserved with
            | known asked => exact locking.consulted asked
  cases course with
  | refused known => exact locking.consulted known.asked
  | kept known ran asked =>
      have during := locking.framed keeps (.refl _) ran trivial
      exact locking.trans (locking.trans (checked known) during) (locking.consulted asked)
  | withdrawn known ran undone =>
      have during := locking.framed keeps (.refl _) ran trivial
      exact locking.trans (locking.trans (checked known) during) (locking.unlinked undone)

/-- A reservation is respected if its scope is, and the recording of its edge while the slave is
    there and locked. -/
theorem addResolved (keeps : Keeps R scope)
    (recorded : ∀ {start mid}, start.store = node.store → ¬start.guards.Holds slave.text .exclusive →
      (start.faults.Honest → start.store.hasRecord slave = true) →
      Reserved resource master slave start (.ok true) mid → R start mid) :
    (Engine.addResolved resource master slave scope).Ends node fun _ after => R node after := by
  refine locking.within trivial (locking.guarded fun hold held taken => locking.paired fun paired => ?_)
  refine locking.reserves keeps ?_ (Engine.ends_holdReservation paired)
  exact fun found reserved =>
    recorded rfl (GuardTable.not_holds_exclusive_of_take?_shared taken rfl) found reserved

theorem removeDependency (keeps : Keeps R scope) :
    Keeps R (engine.removeDependency master slave scope) := by
  refine locking.toFraming.removeDependency fun node => ?_
  refine locking.within trivial (locking.guarded fun hold held taken => ?_)
  exact locking.toFraming.holdRelease locking.unlinked trivial keeps _

end Locking

/-! ## Relations about the ledger alone -/

/-- A relation that only new edges may disturb, and those of reservations do not. -/
structure Additive (R : Node → Node → Prop) : Prop extends Lockless (fun _ => True) R where
  paired : ∀ {node after}, (node.store.Paired → R node after) → R node after
  ordered : ∀ {node after call}, Performed call node after →
    (∀ master slave, call ≠ .link master slave) → R node after
  linked : ∀ {node after} {master slave : ObjectKey}, Performed (.link master slave) node after →
    master ≠ slave → ¬TransGen node.store.Relies slave master → R node after

namespace Additive

variable {R : Node → Node → Prop} (additive : Additive R) {engine : Engine} {resource : Resource}
  {master slave : ObjectKey} {scope : Run ActionError RawJson}

include additive

theorem locking : Locking R where
  toFraming := additive.toFraming
  guarded runs := additive.guarded fun hold held taken => runs hold held taken
  paired := additive.paired
  unlinked undone := additive.ordered undone fun _ _ same => nomatch same

theorem addResolved (different : master ≠ slave) (keeps : Keeps R scope) :
    Keeps R (Engine.addResolved resource master slave scope) := by
  refine fun node => additive.locking.addResolved keeps fun _ _ _ reserved => ?_
  cases reserved with
  | recorded done apart => exact additive.linked done different apart

/-- Such a relation is respected by every program that does not add edges on its own. -/
theorem upheld {known : Resource → Prop} {allowed : Actor → Deed → Prop}
    (never : ∀ actor master slave, ¬allowed actor (.store (.link master slave))) :
    Upheld engine known allowed fun _ => R where
  refl _ := additive.refl
  trans first second := additive.trans first second
  note _ node told := additive.consulted (.marked trivial)
  ask actor call may node := by
    refine ends_ask (fun _ _ _ => additive.consulted) fun after done => ?_
    refine additive.ordered done fun master slave same => never actor master slave ?_
    rw [← same]
    exact may
  dispatch _ resource run key request _ handled := by
    refine additive.dispatch (fun _ _ => trivial) (fun _ _ => trivial) ?_ ?_ handled
    · exact fun done => additive.ordered done fun _ _ same => nomatch same
    · exact fun done => additive.ordered done fun _ _ same => nomatch same
  add _ _ _ _ _ keeps :=
    additive.addDependency fun node _ _ different _ _ => additive.addResolved different keeps node
  remove _ _ _ _ _ := additive.locking.removeDependency

end Additive

/-- What had happened before is a part of what has happened after, and the same is planned to go wrong,
    if the two sides of the ledger told the same. -/
def Continues (node after : Node) : Prop :=
  node.store.Paired → after.store.Paired ∧ node.history <:+ after.history ∧
    after.faults.schedule = node.faults.schedule

namespace Continues

variable {node after : Node} {call : StoreCall}

theorem performed (done : Performed call node after) : Continues node after := by
  intro paired
  obtain ⟨later, earlier, told, -, -⟩ := done.history
  refine ⟨done.store ▸ paired.after call, ⟨later ++ .stored call false :: earlier, ?_⟩, done.schedule⟩
  rw [told, List.append_assoc, List.cons_append]

theorem additive : Additive Continues where
  refl node paired := ⟨paired, List.suffix_refl node.history, rfl⟩
  trans _ _ _ first second paired := by
    obtain ⟨between, before, same⟩ := first paired
    obtain ⟨last, rest, same'⟩ := second between
    exact ⟨last, before.trans rest, same'.trans same⟩
  consulted asked paired := by
    obtain ⟨marks, told, -⟩ := asked.history
    exact ⟨asked.store ▸ paired, ⟨marks, told.symm⟩, asked.schedule⟩
  began node frame _ paired := ⟨paired, ⟨[.began frame], rfl⟩, rfl⟩
  ended node frame _ paired := ⟨paired, ⟨[.ended frame], rfl⟩, rfl⟩
  table _ _ _ paired := by simpa using paired
  paired continues paired := continues paired paired
  ordered done _ := performed done
  linked done _ _ := performed done

end Continues

end Provision
