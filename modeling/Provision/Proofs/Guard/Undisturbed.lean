import Provision.Proofs.Engine.Assembly
import Provision.Proofs.Engine.Framing
import Provision.Proofs.Guard.Holders
import Provision.Proofs.Run.Orderly

/-! # Handlers and scopes are left undisturbed

As long as a handler or a scope runs, the lock of its object is held. So nobody takes this lock
meanwhile unless both sides only read. A delete writes, and removes the record of its object while it
still has the lock: no other handler or scope of the object is running then.
-/

namespace Provision

open Run Node

/-- The handlers and scopes that run after one more entry of a history, innermost first. -/
def Mark.attends : Mark → List Frame → List Frame
  | .began (.handler span mode), running => .handler span mode :: running
  | .began (.scope change slave), running => .scope change slave :: running
  | .ended (.handler span mode), running => running.erase (.handler span mode)
  | .ended (.scope change slave), running => running.erase (.scope change slave)
  | _, running => running

/-- The handlers and scopes that have begun and not ended, innermost first. -/
def running (past : List Mark) : List Frame := past.foldr Mark.attends []

/-- One more entry of a history pulls nothing away from under what runs: no record of an object is
    removed while a handler of the object runs, neither a handler nor a scope of an object starts while
    a writer runs on it, and no delete starts on the slave of a scope that runs. -/
def Mark.Spares : Mark → List Frame → Prop
  | .stored (.remove key) false, running =>
    ∀ span mode, .handler span mode ∈ running → span.object ≠ key
  | .began (.handler span _), running =>
    (∀ writer, .handler writer .exclusive ∈ running → writer.object ≠ span.object) ∧
      (span.action = Resource.deleteAction → ∀ change, .scope change span.object ∉ running)
  | .began (.scope _ slave), running =>
    ∀ writer, .handler writer .exclusive ∈ running → writer.object ≠ slave
  | _, _ => True

/-- The last thing done spared what ran, and the slave of each reservation whose scope runs is there. -/
structure Undisturbed (past : List Mark) : Prop where
  spared : ∀ mark rest, past = mark :: rest → mark.Spares (running rest)
  there : ∀ slave, .scope .add slave ∈ running past → (storeAfter past).hasRecord slave = true

/-- A frame of a handler or of a scope. -/
def Frame.Body : Frame → Prop
  | .handler .. | .scope .. => True
  | .dispatch .. | .dependency .. => False

section Running

variable {mark : Mark} {frame : Frame} {past : List Mark} {node after : Node} {call : StoreCall}

theorem running_cons : running (mark :: past) = mark.attends (running past) := rfl

theorem running_stored {astray : Bool} : running (.stored call astray :: past) = running past := rfl

theorem running_began (body : frame.Body) : running (.began frame :: past) = frame :: running past := by
  cases frame with
  | handler | scope => rfl
  | dispatch | dependency => exact body.elim

theorem running_ended (body : frame.Body) :
    running (.ended frame :: past) = (running past).erase frame := by
  cases frame with
  | handler | scope => rfl
  | dispatch | dependency => exact body.elim

theorem running_outer (outer : ¬frame.Body) :
    running (.began frame :: past) = running past ∧ running (.ended frame :: past) = running past := by
  cases frame with
  | handler | scope => exact absurd trivial outer
  | dispatch | dependency => exact ⟨rfl, rfl⟩

theorem Mark.Idle.attends (idle : mark.Idle) (running : List Frame) : mark.attends running = running := by
  cases mark with
  | stored | reported | noted => rfl
  | began | ended => exact idle.elim

theorem running_idle {marks : List Mark} (idle : ∀ mark ∈ marks, mark.Idle) :
    running (marks ++ past) = running past :=
  same_idle (fun _ past known => known.attends (running past)) idle

theorem Node.Consulted.running (asked : Consulted node after) :
    running after.history = running node.history := by
  obtain ⟨marks, told, idle⟩ := asked.history
  rw [told, running_idle idle]

theorem Node.Performed.running (done : Performed call node after) :
    running after.history = running node.history := by
  obtain ⟨later, earlier, told, idle, idle'⟩ := done.history
  rw [told, running_idle idle]
  exact running_idle idle'

end Running

/-- What an actor may do if it is to leave the removal of records to the engine. -/
def LeavesRecords (_ : Actor) (deed : Deed) : Prop := ∀ key, deed ≠ .store (.remove key)

/-- All that runs was left undisturbed so far, and its locks are held. -/
structure Settled (node : Node) : Prop where
  orderly : node.Orderly Undisturbed
  locked : ∀ frame ∈ running node.history, node.guards.Holds frame.object.text frame.mode

/-- Still nothing was disturbed, and the same handlers and scopes run under the same locks as before. -/
structure Resumes (node after : Node) : Prop where
  orderly : after.Orderly Undisturbed
  guards : node.guards.Agrees after.guards
  running : running after.history = running node.history

def KeepsSettled (node after : Node) : Prop := Settled node → Resumes node after

/-- What runs on an object may go on beside a new holder of its lock. -/
def Admissible (node : Node) (key : ObjectKey) (mode : LockMode) : Prop :=
  ∀ frame ∈ running node.history, frame.object = key → frame.mode = .shared ∧ mode = .shared

section Settled

variable {node mid after : Node} {call : StoreCall} {key : ObjectKey} {mode : LockMode} {frame : Frame}

theorem Resumes.settled (resumes : Resumes node after) (settled : Settled node) : Settled after := by
  refine ⟨resumes.orderly, fun frame member => ?_⟩
  rw [resumes.running] at member
  exact resumes.guards.holds_iff.mpr (settled.locked frame member)

theorem Resumes.trans (first : Resumes node mid) (second : Resumes mid after) : Resumes node after :=
  ⟨second.orderly, first.guards.trans second.guards, second.running.trans first.running⟩

theorem Undisturbed.idle (mark : Mark) (past : List Mark) (idle : mark.Idle)
    (undisturbed : Undisturbed past) : Undisturbed (mark :: past) := by
  constructor
  · intro mark' rest same
    cases same
    cases mark with
    | stored call astray =>
        cases astray with
        | true => cases call <;> exact trivial
        | false =>
            cases call with
            | get | has | masters => exact trivial
            | write | remove | link | unlink | release =>
                exact idle.elim Bool.false_ne_true.elim False.elim
    | began | ended => exact idle.elim
    | reported | noted => exact trivial
  · rw [running_cons, idle.attends, idle.storeAfter]
    exact undisturbed.there

theorem Settled.consulted (settled : Settled node) (asked : Consulted node after) :
    Resumes node after :=
  ⟨settled.orderly.consulted Undisturbed.idle asked, asked.guards.symm ▸ .refl _, asked.running⟩

/-- An order disturbs nothing if it does not remove the record of an object that something runs on. -/
theorem Settled.performed (settled : Settled node) (done : Performed call node after)
    (spares : ∀ key, call = .remove key → ∀ frame ∈ running node.history, frame.object ≠ key) :
    Resumes node after := by
  refine ⟨?_, done.guards.symm ▸ .refl _, done.running⟩
  refine settled.orderly.performed Undisturbed.idle done fun past store extends' undisturbed => ?_
  obtain ⟨earlier, rfl, asked⟩ := extends'
  constructor
  · intro mark rest same
    cases same
    rw [running_idle asked]
    cases call with
    | remove key => exact fun span mode member => spares key rfl _ member
    | get | has | write | link | unlink | release | masters => exact trivial
  · intro slave member
    refine MemoryStore.hasRecord_after (fun same => ?_) (undisturbed.there slave member)
    rw [running_stored, running_idle asked] at member
    exact spares slave same _ member rfl

/-- A frame that is not of a handler or a scope may begin and end at any time. -/
theorem Settled.outer (settled : Settled node) (outer : ¬frame.Body) {mark : Mark}
    (either : mark = .began frame ∨ mark = .ended frame) : Resumes node (node.marked mark) := by
  have same : running (mark :: node.history) = running node.history := by
    rcases either with rfl | rfl
    · exact (running_outer outer).1
    · exact (running_outer outer).2
  have store : storeAfter (mark :: node.history) = storeAfter node.history := by
    rcases either with rfl | rfl <;> rfl
  refine ⟨settled.orderly.marked store ⟨?_, ?_⟩, .refl _, same⟩
  · intro mark' rest known
    cases known
    rcases either with rfl | rfl
    · cases frame with
      | handler | scope => exact absurd trivial outer
      | dispatch | dependency => exact trivial
    · exact trivial
  · rw [same, store]
    exact settled.orderly.traced.now.there

theorem framing : Framing (fun frame => ¬frame.Body) KeepsSettled where
  refl _ settled := ⟨settled.orderly, .refl _, rfl⟩
  trans _ _ _ first second settled :=
    (first settled).trans (second ((first settled).settled settled))
  consulted asked settled := settled.consulted asked
  began _ _ outer settled := settled.outer outer (.inl rfl)
  ended _ _ outer settled := settled.outer outer (.inr rfl)

/-- A handler or a scope runs undisturbed if its lock is held and it may start. -/
theorem Settled.body {ε α : Type} {body : Run ε α} {outcome : Except (Halt ε) α} {done : Node}
    (settled : Settled node) (isBody : frame.Body)
    (locked : node.guards.Holds frame.object.text frame.mode)
    (spares : (Mark.began frame).Spares (running node.history))
    (there : ∀ slave, frame = .scope .add slave → node.store.hasRecord slave = true)
    (keeps : Keeps KeepsSettled body) (ran : body (node.marked (.began frame)) = (outcome, done)) :
    Resumes node (done.marked (.ended frame)) := by
  have begins : (node.marked (.began frame)).Orderly Undisturbed := by
    refine settled.orderly.marked rfl ⟨?_, ?_⟩
    · intro mark rest same
      cases same
      exact spares
    · intro slave member
      rw [running_began isBody] at member
      rcases List.mem_cons.mp member with same | old
      · exact settled.orderly.traced.store.symm ▸ there slave same.symm
      · exact settled.orderly.traced.now.there slave old
  have start : Settled (node.marked (.began frame)) := by
    refine ⟨begins, fun other member => ?_⟩
    rw [Node.marked, running_began isBody] at member
    rcases List.mem_cons.mp member with rfl | old
    · exact locked
    · exact settled.locked other old
  have during := keeps.of_eq ran start
  have inner : running done.history = frame :: running node.history :=
    during.running.trans (running_began isBody)
  have left : running (.ended frame :: done.history) = running node.history := by
    rw [running_ended isBody, inner, List.erase_cons_head]
  refine ⟨during.orderly.marked rfl ⟨?_, ?_⟩, during.guards, left⟩
  · intro mark rest same
    cases same
    exact trivial
  · intro slave member
    rw [left] at member
    refine during.orderly.traced.now.there slave ?_
    rw [inner]
    exact List.mem_cons_of_mem _ member

/-- Whoever gets the lock of an object gets it beside what runs on the object. -/
theorem Settled.admissible {hold : Hold} {held : GuardTable} (settled : Settled node)
    (taken : node.guards.take? key.text mode = some (hold, held)) : Admissible node key mode := by
  intro frame member same
  have locked := settled.locked frame member
  rw [same] at locked
  cases mode with
  | exclusive => exact absurd locked (GuardTable.not_holds_of_take?_exclusive taken rfl)
  | shared =>
      refine ⟨?_, rfl⟩
      cases writes : frame.mode with
      | shared => rfl
      | exclusive =>
          rw [writes] at locked
          have still := (GuardTable.holds_take?_iff taken settled.orderly.sound).mpr (.inr locked)
          exact absurd still (GuardTable.not_holds_exclusive_of_take?_shared taken rfl)

theorem keeps_guarded {ε α : Type} {body : Run ε α}
    (runs : ∀ start : Node, Settled start → start.guards.Holds key.text mode →
      Admissible start key mode → body.Ends start fun _ after => Resumes start after) :
    Keeps KeepsSettled (guarded .shared key mode body) := by
  intro node settled
  have ends : (guarded .shared key mode body).Ends node fun _ after => after.Orderly Undisturbed ∧
      node.guards.Agrees after.guards ∧ running after.history = running node.history := by
    refine settled.orderly.guarded ⟨.refl _, rfl⟩ fun hold held taken start => ?_
    have locked : Settled (node.withTable .shared held) := by
      refine ⟨start, fun frame member => ?_⟩
      exact (GuardTable.holds_take?_iff taken settled.orderly.sound).mpr
        (.inr (settled.locked frame member))
    refine (runs _ locked (GuardTable.holds_of_take? taken) (settled.admissible taken)).imp ?_
    intro result after resumes
    exact ⟨resumes.orderly, resumes.guards, fun left agrees => ⟨agrees, resumes.running⟩⟩
  obtain ⟨orderly, guards, same⟩ := ends
  exact ⟨orderly, guards, same⟩

end Settled

namespace KeepsSettled

variable {node after : Node} {engine : Engine} {resource : Resource} {master slave : ObjectKey}
  {body : Run ActionError RawJson}

theorem holdDispatch {run : Program → Run ActionError RawJson} {key : ObjectKey} {request : Request}
    {action : Action} (alone : request.action = Resource.deleteAction → action.flags.mode = .exclusive)
    (keeps : Keeps KeepsSettled (run (action.handler key request.payload))) (settled : Settled node)
    (locked : node.guards.Holds key.text action.flags.mode)
    (admissible : Admissible node key action.flags.mode) :
    (resource.holdDispatch run key request action).Ends node fun _ after => Resumes node after := by
  have handled : ∀ {outcome mid done}, Consulted node mid →
      run (action.handler key request.payload)
        (mid.marked (.began (resource.handlerFrame key request action))) = (outcome, done) →
      Resumes node (done.marked (.ended (resource.handlerFrame key request action))) := by
    intro outcome mid done passed ran
    have before := settled.consulted passed
    refine before.trans ((before.settled settled).body trivial ?_ ⟨?_, ?_⟩ ?_ keeps ran)
    · exact before.guards.holds_iff.mpr locked
    · rw [before.running]
      intro writer member same
      obtain ⟨reads, -⟩ := admissible _ member same
      cases reads
    · rw [before.running]
      intro deleting change member
      obtain ⟨-, reads⟩ := admissible _ member rfl
      rw [alone deleting] at reads
      cases reads
    · exact fun slave same => nomatch same
  refine Resource.ends_holdDispatch.imp fun _ after course => ?_
  cases course with
  | refused asked => exact settled.consulted asked
  | handled passed _ ran asked =>
      have during := handled passed ran
      exact during.trans ((during.settled settled).consulted asked)
  | gaveUp passed _ _ ran _ released =>
      have during := handled passed ran
      exact during.trans ((during.settled settled).performed released fun _ same => nomatch same)
  | deleted passed _ deleting _ ran removed =>
      have during := handled passed ran
      refine during.trans ((during.settled settled).performed removed ?_)
      -- The delete writes, so nothing else runs on its object.
      intro key' same frame member onKey
      cases same
      rw [during.running] at member
      obtain ⟨-, reads⟩ := admissible frame member onKey
      rw [alone deleting] at reads
      cases reads

theorem scope {change : DependencyChange} {outcome : Except (Halt ActionError) RawJson}
    {mid done : Node} (settled : Settled node) (locked : node.guards.Holds slave.text .shared)
    (admissible : Admissible node slave .shared) (passed : Resumes node mid)
    (there : change = .add → mid.store.hasRecord slave = true) (keeps : Keeps KeepsSettled body)
    (ran : body (mid.marked (.began (.scope change slave))) = (outcome, done)) :
    Resumes node (done.marked (.ended (.scope change slave))) := by
  refine passed.trans ((passed.settled settled).body trivial ?_ ?_ ?_ keeps ran)
  · exact passed.guards.holds_iff.mpr locked
  · rw [passed.running]
    intro writer member same
    obtain ⟨reads, -⟩ := admissible _ member same
    cases reads
  · intro other same
    cases same
    exact there rfl

theorem holdReservation (keeps : Keeps KeepsSettled body) (settled : Settled node)
    (locked : node.guards.Holds slave.text .shared) (admissible : Admissible node slave .shared) :
    (Engine.holdReservation resource master slave body).Ends node fun _ after =>
      Resumes node after := by
  have checked : ∀ {recorded mid}, Checked resource master slave node (.ok recorded) mid →
      Resumes node mid ∧ mid.store.hasRecord slave = true := by
    intro recorded mid known
    cases known with
    | present found reserved =>
        have there := found settled.orderly.honest
        cases reserved with
        | known asked => exact ⟨settled.consulted asked, asked.store.symm ▸ there⟩
        | recorded done =>
            refine ⟨settled.performed done fun _ same => (nomatch same), ?_⟩
            rw [done.store]
            exact MemoryStore.hasRecord_after (fun same => nomatch same) there
  refine (Engine.ends_holdReservation settled.orderly.traced.paired).imp fun _ after course => ?_
  cases course with
  | refused known => exact settled.consulted known.asked
  | kept known ran asked =>
      obtain ⟨passed, there⟩ := checked known
      have during := scope settled locked admissible passed (fun _ => there) keeps ran
      exact during.trans ((during.settled settled).consulted asked)
  | withdrawn known ran undone =>
      obtain ⟨passed, there⟩ := checked known
      have during := scope settled locked admissible passed (fun _ => there) keeps ran
      exact during.trans ((during.settled settled).performed undone fun _ same => nomatch same)

theorem holdRelease (keeps : Keeps KeepsSettled body) (settled : Settled node)
    (locked : node.guards.Holds slave.text .shared) (admissible : Admissible node slave .shared) :
    (Engine.holdRelease master slave body).Ends node fun _ after => Resumes node after := by
  have begins : Resumes node node := framing.refl node settled
  have unasked : DependencyChange.remove = .add → node.store.hasRecord slave = true :=
    fun same => nomatch same
  refine Engine.ends_holdRelease.imp fun _ after course => ?_
  cases course with
  | failed ran asked =>
      have during := scope settled locked admissible begins unasked keeps ran
      exact during.trans ((during.settled settled).consulted asked)
  | released ran undone =>
      have during := scope settled locked admissible begins unasked keeps ran
      exact during.trans ((during.settled settled).performed undone fun _ same => nomatch same)

theorem within {ε α : Type} {frame : Frame} {body : Run ε α} (outer : ¬frame.Body)
    (keeps : Keeps KeepsSettled body) : Keeps KeepsSettled (within frame body) :=
  fun _ => framing.within outer (keeps _)

theorem upheld (built : engine.Built) :
    Upheld engine (· ∈ engine.resources) LeavesRecords fun _ => KeepsSettled where
  refl _ := framing.refl
  trans first second := framing.trans first second
  note _ _ _ := framing.consulted (.marked trivial)
  ask _ call may _ := by
    refine ends_ask (fun _ _ _ asked => framing.consulted asked) fun after done settled => ?_
    exact settled.performed done fun key same => absurd (congrArg Deed.store same) (may key)
  dispatch _ resource run key request member handled := by
    rw [Resource.dispatch_eq]
    split
    next unknown => exact Keeps.throw framing.refl _
    next action described =>
      rw [built.guards member]
      refine within id (keeps_guarded fun start settled locked admissible => ?_)
      refine holdDispatch (fun deleting => ?_) (handled action described) settled locked admissible
      rw [ActionFlags.mode, built.deleteFlags member (deleting ▸ described)]
      rfl
  add _ _ _ _ _ keeps := framing.addDependency fun node _ _ _ _ _ =>
    within id (keeps_guarded fun _ => holdReservation keeps) node
  remove _ _ _ _ _ keeps :=
    framing.removeDependency (within id (keeps_guarded fun _ => holdRelease keeps))

end KeepsSettled

theorem settled_start {faults : FaultPlan} (honest : faults.Honest) : Settled { faults } where
  orderly := orderly_start honest ⟨fun _ _ same => (nomatch same), fun _ member => (nomatch member)⟩
  locked _ member := nomatch member

/-- At every moment of every run from an empty store that leaves the removal of records to the engine:
    no record is removed while a handler of its object runs; nothing starts on an object while a writer
    runs on it; no delete starts on the slave of a scope that runs; and the slave of a reservation is
    there as long as its scope runs. The store may fail, but not answer wrongly. -/
theorem serve_undisturbed {engine : Engine} (built : engine.Built) (depth : Nat) {faults : FaultPlan}
    (honest : faults.Honest) {operations : List Operation}
    (handlers : ∀ resource ∈ engine.resources, resource.Confined LeavesRecords)
    (callers : ∀ operation ∈ operations, operation.Confined (· ∈ engine.resources) LeavesRecords) :
    (engine.serve depth { faults } operations).Traced Undisturbed :=
  ((KeepsSettled.upheld built).serve (fun _ => id) handlers depth { faults } callers
    (settled_start honest)).orderly.traced

/-- A network is created, and a disk while the network is reserved. -/
def Small.creations : List Operation := [.program (act "network" "create" "n"), .program creating]

/-- There is a moment at which the disk is created in the scope of the reservation of the network. -/
theorem serve_undisturbed_creations :
    (Small.engine.Built ∧ FaultPlan.none.Honest ∧
      (∀ resource ∈ Small.engine.resources, resource.Confined LeavesRecords) ∧
      ∀ operation ∈ Small.creations, operation.Confined (· ∈ Small.engine.resources) LeavesRecords) ∧
    running ((Small.engine.serve 9 { faults := .none } Small.creations).history.drop 5) =
      [.handler ⟨"disk", "create", Small.object "a"⟩ .exclusive, .scope .add (Small.object "n")] ∧
    (Small.engine.serve 9 { faults := .none } Small.creations).Traced Undisturbed := by
  have handlers : ∀ resource ∈ Small.engine.resources, resource.Confined LeavesRecords :=
    Small.engine_confined fun _ _ => by simp [LeavesRecords]
  have callers : ∀ operation ∈ Small.creations,
      operation.Confined (· ∈ Small.engine.resources) LeavesRecords := by
    simp [Small.creations, Small.creating, Small.act, Small.reserve, Operation.Confined,
      Program.Confined, LeavesRecords]
  refine ⟨⟨Small.engine_built, FaultPlan.calm_none.honest, handlers, callers⟩, ?_, ?_⟩
  · decide +kernel
  · exact serve_undisturbed Small.engine_built 9 FaultPlan.calm_none.honest handlers callers

end Provision
