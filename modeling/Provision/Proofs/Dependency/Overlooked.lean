import Provision.Proofs.Dependency.Single

/-! # A reservation that overlooks a change

Between the look-up of a reservation and its lock others may act: the slave may be deleted, created
again as an object for one master, and reserved. That the slave exists is checked again under the
lock, but what was looked up is not, so the edge is recorded beside the one that is there. Nothing
else gives an exclusive object a second master.
-/

namespace Provision

open Run Node Relation

section Overlooked

variable {engine : Engine} {resource : Resource} {node mid after : Node} {master slave : ObjectKey}
  {scope : Run ActionError RawJson}

/-- Two masters rely on an exclusive slave at the moment when an edge is recorded that overlooks one. -/
theorem Engine.Overlooks.not_single (overlooks : engine.Overlooks resource node.store master slave)
    (told : storeAfter node.history = node.store) (done : Performed (.link master slave) node mid) :
    ∃ past, past <:+ mid.history ∧ ¬(storeAfter past).Single engine := by
  obtain ⟨later, earlier, history, -, idle⟩ := done.history
  obtain ⟨record, stored, exclusive⟩ := overlooks.exclusive
  obtain ⟨other, relies⟩ := overlooks.taken
  refine ⟨.stored (.link master slave) false :: (earlier ++ node.history), ?_, fun single => ?_⟩
  · rw [history]
    exact List.suffix_append _ _
  · rw [storeAfter, storeAfter_idle idle, told] at single
    have first : (node.store.link master slave).Relies master slave :=
      MemoryStore.relies_link.mpr (.inl ⟨rfl, rfl⟩)
    have second : (node.store.link master slave).Relies other slave :=
      MemoryStore.relies_link.mpr (.inr relies)
    have same := single slave record stored exclusive master other first second
    rw [same] at overlooks
    exact overlooks.new relies

/-- If no call goes wrong, a reservation that overlooks a master gets past its checks. -/
theorem Engine.Overlooks.performed (overlooks : engine.Overlooks resource node.store master slave)
    (calm : node.faults.Calm) {result : Except (Halt EngineError) Bool}
    (checked : Checked resource master slave node result mid) :
    Performed (.link master slave) node mid := by
  cases checked with
  | absent _ missing =>
      obtain ⟨record, stored, -⟩ := overlooks.exclusive
      have absent := missing calm.honest
      rw [MemoryStore.hasRecord_eq, stored] at absent
      cases absent
  | failed wrong => exact absurd calm wrong
  | present _ reserved =>
      cases reserved with
      | failed wrong => exact absurd calm wrong
      | cyclic _ path => exact absurd path overlooks.apart
      | taken _ _ exclusive =>
          rw [overlooks.shared] at exclusive
          cases exclusive
      | known _ _ old => exact absurd old overlooks.new
      | recorded done => exact done

/-- Under the lock of the slave the edge is recorded, and whatever follows does not undo that it was. -/
theorem Engine.Overlooks.reserves (overlooks : engine.Overlooks resource node.store master slave)
    (calm : node.faults.Calm) (told : storeAfter node.history = node.store)
    (paired : node.store.Paired) (keeps : Keeps Continues scope)
    (course : Engine.Reserves resource master slave scope node after) :
    ∃ past, past <:+ after.history ∧ ¬(storeAfter past).Single engine := by
  have recorded : ∃ mid, Performed (.link master slave) node mid ∧ Continues mid after := by
    cases course with
    | refused known => exact ⟨_, overlooks.performed calm known, Continues.additive.refl _⟩
    | kept known ran asked =>
        have during := Continues.additive.framed keeps (.refl _) ran trivial
        have last := Continues.additive.consulted asked
        exact ⟨_, overlooks.performed calm known, Continues.additive.trans during last⟩
    | withdrawn known ran undone =>
        have during := Continues.additive.framed keeps (.refl _) ran trivial
        have last := Continues.performed undone
        exact ⟨_, overlooks.performed calm known, Continues.additive.trans during last⟩
  obtain ⟨mid, done, continues⟩ := recorded
  obtain ⟨past, before, wrong⟩ := overlooks.not_single told done
  have between : mid.store.Paired := done.store ▸ paired.after _
  exact ⟨past, before.trans (continues between).2.1, wrong⟩

/-- A reservation that overlooks a master goes through if nobody holds a lock and no call goes wrong. -/
theorem Engine.Overlooks.addResolved
    (overlooks : engine.Overlooks resource node.store master slave) (calm : node.faults.Calm)
    (orderly : node.Orderly (SettledAt engine)) (free : ∀ id mode, ¬node.guards.Holds id mode)
    (keeps : Keeps Continues scope) :
    (Engine.addResolved resource master slave scope).Ends node fun _ after =>
      ∃ past, past <:+ after.history ∧ ¬(storeAfter past).Single engine := by
  rw [Engine.addResolved_eq, ends_within, ends_guarded]
  have had : (node.guards.take? slave.text .shared).isSome :=
    (GuardTable.take?_isSome_iff orderly.sound).mpr ⟨free _ _, fun same => nomatch same⟩
  split
  next refused =>
    have none' : node.guards.take? slave.text .shared = none := refused
    rw [none'] at had
    cases had
  next hold held taken =>
    let start := (node.marked (.began (.dependency .add slave))).withTable .shared held
    have same : engine.Overlooks resource start.store master slave := overlooks
    have ends : (Engine.holdReservation resource master slave scope).Ends start fun _ last =>
        Engine.Reserves resource master slave scope start last :=
      Engine.ends_holdReservation orderly.traced.paired
    refine ends.imp fun result last course => ?_
    obtain ⟨past, before, wrong⟩ :=
      same.reserves calm orderly.traced.store orderly.traced.paired keeps course
    split
    · exact ⟨past, before.trans (List.suffix_cons _ _), wrong⟩
    · exact ⟨past, before.trans (List.suffix_cons _ _), wrong⟩

/-! ## Operations in between -/

namespace Engine

/-- A reservation of a caller, with other operations made after the look-up that it begins with. -/
def addAround (engine : Engine) (depth : Nat) (between : List Operation) (master slave : ObjectKey)
    (scope : Program) : Run ActionError RawJson := do
  let resource ← engine.resolve master slave
  modify fun node => engine.serve depth node between
  addResolved resource master slave (engine.run depth scope)

/-- With nothing in between it is the reservation of the engine. -/
theorem addAround_nil {depth : Nat} {scope : Program} :
    engine.addAround depth [] master slave scope =
      engine.addDependency master slave (engine.run depth scope) := rfl

theorem addAround_eq {depth : Nat} {between : List Operation} {scope : Program} {looked : Node}
    (resolved : engine.resolve master slave node = (.ok resource, looked)) :
    engine.addAround depth between master slave scope node =
      Engine.addResolved resource master slave (engine.run depth scope)
        (engine.serve depth looked between) := by
  simp only [addAround, Bind.bind, ExceptT.bind, ExceptT.mk, StateT.bind, ExceptT.bindCont, resolved]
  rfl

end Engine

theorem OwnRecords.not_link (actor : Actor) (master slave : ObjectKey) :
    ¬OwnRecords actor (.store (.link master slave)) := by
  cases actor <;> simp [OwnRecords, StoreCall.Reads]

section Runs

variable {depth : Nat} {faults : FaultPlan} {before between later : List Operation} {scope : Program}
  {looked : Node}
  (handlers : ∀ resource ∈ engine.resources, resource.Confined OwnRecords)

include handlers

theorem serve_continues (callers : ∀ operation ∈ later,
    operation.Confined (· ∈ engine.resources) OwnRecords) :
    Continues node (engine.serve depth node later) :=
  (Continues.additive.upheld OwnRecords.not_link).serve (fun _ => id) handlers depth node callers

/-- Up to the lock of a reservation everything is settled, and no call goes wrong if none is to. -/
theorem between_steady (built : engine.Built) (honest : faults.Honest)
    (earlier : ∀ operation ∈ before, operation.Confined (· ∈ engine.resources) OwnRecords)
    (meanwhile : ∀ operation ∈ between, operation.Confined (· ∈ engine.resources) OwnRecords)
    (asked : Consulted (engine.serve depth { faults } before) looked) :
    Steady engine .caller { faults } (engine.serve depth looked between) ∧
      (faults.Calm → (engine.serve depth looked between).faults.Calm) := by
  have first := serve_steady built depth honest handlers earlier
  have second := first.trans (KeepsSingle.framing.consulted asked first.orderly trivial)
  have third := (KeepsSingle.upheld built).serve (fun _ => id) handlers depth looked meanwhile
    second.orderly trivial
  refine ⟨second.trans third, fun calm => ?_⟩
  have start : ({ faults } : Node).store.Paired := MemoryStore.paired_empty
  obtain ⟨-, -, first'⟩ := serve_continues handlers earlier start
  obtain ⟨-, -, third'⟩ := serve_continues handlers meanwhile second.orderly.traced.paired
  rw [FaultPlan.Calm, third', asked.schedule, first']
  exact calm

/-- An exclusive object had two masters at some moment if a reservation overlooked one of them. -/
theorem Engine.Overlooks.not_traced
    (overlooks : engine.Overlooks resource node.store master slave) (calm : node.faults.Calm)
    (steady : Steady engine .caller { faults } node) (different : master ≠ slave)
    (inner : scope.Confined (OwnRecords .caller))
    (afterwards : ∀ operation ∈ later, operation.Confined (· ∈ engine.resources) OwnRecords) :
    ¬(engine.serve depth (Engine.addResolved resource master slave (engine.run depth scope) node).2
      later).Traced fun past => (storeAfter past).Single engine := by
  intro traced
  have free : ∀ id mode, ¬node.guards.Holds id mode := by
    intro id mode held
    obtain ⟨entry, found, -⟩ := steady.secures.guards.holds_iff.mp held
    simp [GuardTable.empty] at found
  have scopes : Keeps Continues (engine.run depth scope) :=
    (Continues.additive.upheld OwnRecords.not_link).run (fun _ => id) handlers depth inner
  obtain ⟨past, part, wrong⟩ := overlooks.addResolved calm steady.orderly free scopes
  have goes : Continues node
      (Engine.addResolved resource master slave (engine.run depth scope) node).2 :=
    Continues.additive.addResolved different scopes node
  obtain ⟨paired, -⟩ := goes steady.orderly.traced.paired
  obtain ⟨-, rest, -⟩ := serve_continues handlers afterwards paired
  exact wrong (traced.always past (part.trans rest))

end Runs

/-- Whatever is done between the look-up of a reservation and its lock, and after it: exclusive
    objects have one master at every moment of the run, unless the reservation overlooks, when it gets
    to its lock, that its slave has a master and is for one only. Then they have not, if no call to the
    store fails. -/
theorem single_unless_overlooks (built : engine.Built) (depth : Nat) {faults : FaultPlan}
    (honest : faults.Honest) {before between later : List Operation} {scope : Program} {looked : Node}
    (handlers : ∀ resource ∈ engine.resources, resource.Confined OwnRecords)
    (callers : ∀ operation ∈ before ++ between ++ later,
      operation.Confined (· ∈ engine.resources) OwnRecords)
    (inner : scope.Confined (OwnRecords .caller))
    (resolved : engine.resolve master slave (engine.serve depth { faults } before) =
      (.ok resource, looked)) :
    let last := engine.serve depth (engine.addAround depth between master slave scope
      (engine.serve depth { faults } before)).2 later
    let overlooks := engine.Overlooks resource (engine.serve depth looked between).store master slave
    (¬overlooks → last.Traced fun past => (storeAfter past).Single engine) ∧
      (faults.Calm → overlooks → ¬last.Traced fun past => (storeAfter past).Single engine) := by
  simp only [List.mem_append, or_imp, forall_and] at callers
  obtain ⟨⟨earlier, meanwhile⟩, afterwards⟩ := callers
  have looks : Consulted (engine.serve depth { faults } before) looked ∧ master ≠ slave := by
    have ends : (engine.resolve master slave).Ends (engine.serve depth { faults } before) _ :=
      Engine.ends_resolve
    rw [Ends, resolved] at ends
    exact ⟨ends.1, ends.2.1⟩
  obtain ⟨steady, planned⟩ := between_steady handlers built honest earlier meanwhile looks.1
  intro last overlooks
  simp only [last, overlooks, Engine.addAround_eq resolved]
  generalize engine.serve depth looked between = node at steady planned
  constructor
  · intro aware
    have single := KeepsSingle.upheld built
    have scopes := single.run (fun _ => id) handlers depth inner
    have reserved := KeepsSingle.addResolved scopes aware steady.orderly trivial
    have end' := single.serve (fun _ => id) handlers depth _ afterwards reserved.orderly trivial
    exact end'.orderly.traced.imp fun past settled => settled.single
  · intro calm overlooked
    exact overlooked.not_traced handlers (planned calm) steady looks.2 inner afterwards

end Overlooked

/-! ## A network that becomes a disk -/

namespace Small

/-- A network is created. -/
def connected : List Operation := [.program (act "network" "create" "a")]

/-- The network is deleted, and a disk of its name is created and reserved. -/
def replaced : List Operation :=
  [.program (act "network" "delete" "a"), .program (act "disk" "create" "a"),
    .program (reserve "first" "a" (.done (.ok .null)) (.ok .null))]

theorem replaced_confined : ∀ operation ∈ connected ++ replaced ++ [],
    operation.Confined (· ∈ engine.resources) OwnRecords := by
  simp [connected, replaced, act, reserve, Operation.Confined, Program.Confined, OwnRecords]

theorem engine_ownRecords : ∀ resource ∈ engine.resources, resource.Confined OwnRecords :=
  engine_confined fun _ _ => .inr ⟨[], rfl⟩

/-- What is left when the network is reserved around all that. -/
def doubled : Node :=
  (engine.addAround 9 replaced (object "second") (object "a") (.done (.ok .null))
    (engine.serve 9 { faults := .none } connected)).2

end Small

/-- The disk has two masters in the end. -/
theorem not_single_doubled :
    (Small.engine.Built ∧ (∀ resource ∈ Small.engine.resources, resource.Confined OwnRecords) ∧
      ∀ operation ∈ Small.connected ++ Small.replaced ++ [],
        operation.Confined (· ∈ Small.engine.resources) OwnRecords) ∧
    ¬Small.doubled.store.Single Small.engine := by
  refine ⟨⟨Small.engine_built, Small.engine_ownRecords, Small.replaced_confined⟩, fun single => ?_⟩
  have kind : (Small.doubled.store.record? (Small.object "a")).map Record.kind = some "disk" := by
    decide +kernel
  obtain ⟨record, stored, disk⟩ := Option.map_eq_some_iff.mp kind
  have exclusive : Small.engine.Exclusive record.kind := by
    rw [disk]
    exact ⟨_, rfl, rfl⟩
  have first : Small.doubled.store.Relies (Small.object "first") (Small.object "a") := by
    decide +kernel
  have second : Small.doubled.store.Relies (Small.object "second") (Small.object "a") := by
    decide +kernel
  have same := single _ record stored exclusive _ _ first second
  exact absurd same (by decide)

/-- The general statement, for the network that becomes a disk. -/
theorem single_unless_overlooks_doubled : ∃ resource looked,
    (Small.engine.Built ∧ FaultPlan.none.Honest ∧
      (∀ resource ∈ Small.engine.resources, resource.Confined OwnRecords) ∧
      (∀ operation ∈ Small.connected ++ Small.replaced ++ [],
        operation.Confined (· ∈ Small.engine.resources) OwnRecords) ∧
      (Program.done (.ok .null)).Confined (OwnRecords .caller) ∧
      Small.engine.resolve (Small.object "second") (Small.object "a")
        (Small.engine.serve 9 { faults := .none } Small.connected) = (.ok resource, looked)) ∧
    let overlooks := Small.engine.Overlooks resource
      (Small.engine.serve 9 looked Small.replaced).store (Small.object "second") (Small.object "a")
    (¬overlooks → Small.doubled.Traced fun past => (storeAfter past).Single Small.engine) ∧
      (FaultPlan.none.Calm → overlooks →
        ¬Small.doubled.Traced fun past => (storeAfter past).Single Small.engine) := by
  have found : ((Small.engine.resolve (Small.object "second") (Small.object "a")
      (Small.engine.serve 9 { faults := .none } Small.connected)).1.toOption).isSome = true := by
    decide +kernel
  have inner : (Program.done (.ok .null)).Confined (OwnRecords .caller) := trivial
  cases resolved : Small.engine.resolve (Small.object "second") (Small.object "a")
      (Small.engine.serve 9 { faults := .none } Small.connected) with
  | mk result looked =>
      rw [resolved] at found
      cases result with
      | error halt => cases found
      | ok resource =>
          have general := single_unless_overlooks Small.engine_built 9 FaultPlan.calm_none.honest
            Small.engine_ownRecords Small.replaced_confined inner resolved
          rw [Engine.serve_nil] at general
          exact ⟨resource, looked, ⟨Small.engine_built, FaultPlan.calm_none.honest,
            Small.engine_ownRecords, Small.replaced_confined, inner, rfl⟩, general⟩

end Provision
