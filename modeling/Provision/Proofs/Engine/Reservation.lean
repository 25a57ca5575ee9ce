import Provision.Proofs.Run.History
import Provision.Proofs.Store.Search

/-! # What the parts of a reservation do

Each part of a reservation has one statement about all its ends. The search for a cycle is exact,
whatever calls to the store fail. An edge is recorded only where it was not, only where it closes no
cycle, and for an exclusive resource only where the slave has no master.
-/

namespace Provision

open Run Node Relation

variable {node : Node} {master slave dependent target key : ObjectKey} {resource : Resource}

theorem Run.Learns.ofConsulted {α : Type} {P : α → Prop} {mid after : Node}
    {result : Except (Halt EngineError) α} (asked : Consulted node mid)
    (learns : Learns mid P result after) : Learns node P result after := by
  obtain ⟨further, known⟩ := learns
  refine ⟨asked.trans further, ?_⟩
  cases result with
  | ok value => exact known
  | error halt => exact ⟨known.1, fun calm => known.2 (asked.calm_iff.mpr calm)⟩

theorem learns_searchMasters {goal : ObjectKey} {steps : Nat} {pending : List ObjectKey}
    {visited : ObjectSet} :
    (searchMasters (fun key => demand (.masters key)) goal steps pending visited).Ends node
      (Learns node (· = Search.search node.store.mastersOf goal steps pending visited)) := by
  induction steps generalizing node pending visited with
  | zero => cases pending <;> exact ⟨Consulted.refl node, rfl⟩
  | succ steps ih =>
      cases pending with
      | nil => exact ⟨Consulted.refl node, rfl⟩
      | cons key pending =>
          simp only [searchMasters, Search.search_cons]
          split
          · exact ⟨Consulted.refl node, rfl⟩
          · split
            · exact ih
            · refine (learns_masters key).learn ?_ ?_
              · exact fun cause after wrong consulted => ⟨consulted, ⟨cause, rfl⟩, wrong⟩
              · intro masters after consulted same
                subst same
                rw [← consulted.store]
                exact ih.imp fun result last further => further.ofConsulted consulted

/-- The search through the ledger is exact and never takes too many steps. -/
theorem learns_dependsOn (paired : node.store.Paired) :
    (dependsOn dependent target).Ends node
      (Learns node fun found => found = true ↔ TransGen node.store.Relies dependent target) := by
  refine (learns_masters target).learn ?_ ?_
  · exact fun cause after wrong consulted => ⟨consulted, ⟨cause, rfl⟩, wrong⟩
  · intro masters mid consulted same
    subst same
    rw [ends_get_bind, consulted.store]
    apply learns_searchMasters.learn
    · intro cause after wrong further
      exact ⟨consulted.trans further, ⟨cause, rfl⟩, fun calm => wrong (consulted.calm_iff.mpr calm)⟩
    · intro found after further same
      subst same
      obtain ⟨answer, same, exact⟩ := paired.search_mastersOf dependent target
      rw [consulted.store, same]
      exact ⟨consulted.trans further, exact⟩

/-- How the recording of an edge ends. -/
inductive Reserved (resource : Resource) (master slave : ObjectKey) (node : Node) :
    Except (Halt EngineError) Bool → Node → Prop where
  /-- The store failed. -/
  | failed {cause : StoreError} {after : Node} (wrong : ¬node.faults.Calm)
      (asked : Consulted node after) :
      Reserved resource master slave node (.error (.error (.store cause))) after
  /-- The edge would close a cycle. -/
  | cyclic {after : Node} (asked : Consulted node after)
      (path : TransGen node.store.Relies slave master) :
      Reserved resource master slave node (.error (.error (.dependencyCycle master slave))) after
  /-- The slave has a master already. -/
  | taken {after : Node} {other : ObjectKey} (asked : Consulted node after)
      (apart : ¬TransGen node.store.Relies slave master)
      (exclusive : resource.flags.isExclusive = true) (relies : node.store.Relies other slave)
      (new : ¬node.store.Relies master slave) :
      Reserved resource master slave node (.error (.error (.objectInUse slave))) after
  /-- The edge is there. -/
  | known {after : Node} (asked : Consulted node after)
      (apart : ¬TransGen node.store.Relies slave master)
      (old : node.store.Relies master slave) :
      Reserved resource master slave node (.ok false) after
  /-- The edge is recorded. -/
  | recorded {after : Node} (done : Performed (.link master slave) node after)
      (apart : ¬TransGen node.store.Relies slave master) (new : ¬node.store.Relies master slave)
      (single : resource.flags.isExclusive = true → ∀ other, ¬node.store.Relies other slave) :
      Reserved resource master slave node (.ok true) after

theorem Reserved.ofConsulted {mid after : Node} {result : Except (Halt EngineError) Bool}
    (asked : Consulted node mid) (reserved : Reserved resource master slave mid result after) :
    Reserved resource master slave node result after := by
  have store := asked.store
  cases reserved with
  | failed wrong further =>
      exact .failed (fun calm => wrong (asked.calm_iff.mpr calm)) (asked.trans further)
  | cyclic further path => exact .cyclic (asked.trans further) (store ▸ path)
  | taken further apart exclusive relies new =>
      exact .taken (asked.trans further) (store ▸ apart) exclusive (store ▸ relies) (store ▸ new)
  | known further apart old => exact .known (asked.trans further) (store ▸ apart) (store ▸ old)
  | recorded done apart new single =>
      exact .recorded (asked.performed done) (store ▸ apart) (store ▸ new) (store ▸ single)

theorem ends_reserve (paired : node.store.Paired) :
    (reserve resource master slave).Ends node (Reserved resource master slave node) := by
  refine (learns_dependsOn paired).learn (fun cause after => .failed) ?_
  rintro found mid consulted exact
  cases found with
  | true => exact .cyclic consulted (exact.mp rfl)
  | false =>
      have apart : ¬TransGen node.store.Relies slave master := fun path =>
        Bool.false_ne_true (exact.mpr path)
      refine Ends.imp ?_ fun result last => Reserved.ofConsulted consulted
      rw [← consulted.store] at apart paired
      clear exact consulted
      refine (learns_masters slave).learn (fun cause after => .failed) ?_
      intro masters after consulted same
      subst same
      split
      next listed =>
        have old := paired.mem_mastersOf_iff.mp (List.contains_iff_mem.mp listed)
        exact .known consulted apart old
      next unlisted =>
        have new : ¬mid.store.Relies master slave := fun old =>
          unlisted (List.contains_iff_mem.mpr (paired.mem_mastersOf_iff.mpr old))
        split
        next refused =>
          obtain ⟨exclusive, some'⟩ := Bool.and_eq_true_iff.mp refused
          obtain ⟨other, listed⟩ := List.exists_mem_of_ne_nil (mid.store.mastersOf slave)
            (by simpa using some')
          exact .taken (consulted.trans (.marked trivial)) apart exclusive
            (paired.mem_mastersOf_iff.mp listed) new
        next free =>
          refine Ends.imp ?_ fun result last => Reserved.ofConsulted consulted
          have single : resource.flags.isExclusive = true →
              ∀ other, ¬mid.store.Relies other slave := by
            intro exclusive
            rw [← paired.mastersOf_eq_nil_iff]
            simpa [exclusive] using free
          have linked : (demand (.link master slave)).Ends after fun result last =>
              Reserved resource master slave after (result.map fun () => true) last := by
            refine ends_demand_order ⟨(), rfl⟩ (fun _ same => nomatch same) ?_ ?_
            · intro cause last wrong
              exact .failed wrong
            · intro answer last performed _
              rw [← consulted.store] at apart new single
              exact .recorded performed apart new single
          apply linked.bind
          · exact fun _ last reserved => reserved
          · exact fun halt last reserved => reserved

/-- How the checks under the lock of a slave end. -/
inductive Checked (resource : Resource) (master slave : ObjectKey) (node : Node) :
    Except (Halt EngineError) Bool → Node → Prop where
  /-- There is no such slave. -/
  | absent {after : Node} (asked : Consulted node after)
      (missing : node.faults.Honest → node.store.hasRecord slave = false) :
      Checked resource master slave node (.error (.error (.objectDoesNotExist slave))) after
  /-- The store failed. -/
  | failed {cause : StoreError} {after : Node} (wrong : ¬node.faults.Calm)
      (asked : Consulted node after) :
      Checked resource master slave node (.error (.error (.store cause))) after
  /-- The slave is there. -/
  | present {result : Except (Halt EngineError) Bool} {after : Node}
      (found : node.faults.Honest → node.store.hasRecord slave = true)
      (reserved : Reserved resource master slave node result after) :
      Checked resource master slave node result after

theorem Checked.asked {error : Halt EngineError} {after : Node}
    (checked : Checked resource master slave node (.error error) after) : Consulted node after := by
  cases checked with
  | absent asked | failed _ asked => exact asked
  | present _ reserved =>
      cases reserved with
      | failed _ asked | cyclic asked | taken asked => exact asked

theorem ends_checkAndReserve (paired : node.store.Paired) :
    (Engine.checkAndReserve resource master slave).Ends node
      (Checked resource master slave node) := by
  refine (learns_has slave).learn (fun cause after => .failed) ?_
  intro present mid consulted truth
  cases present with
  | true =>
      refine (ends_reserve (consulted.store ▸ paired)).imp fun result after reserved => ?_
      exact .present (fun honest => (truth honest).symm) (reserved.ofConsulted consulted)
  | false => exact .absent consulted fun honest => (truth honest).symm

/-! ## Whatever the ledger looks like -/

theorem asks_demand (call : StoreCall) (reads : call.Reads) : Keeps Consulted (demand call) := by
  intro node
  apply ends_demand
  · exact fun _ _ _ asked => asked
  · exact fun _ _ done _ => done.ofReads reads
  · exact fun _ _ _ _ _ _ asked => asked
  · exact fun _ _ done _ => done.ofReads reads

section Chained

variable {K : ∀ {α : Type}, Run EngineError α → Prop} (chained : Chained K)
  (asks : ∀ key, K (demand (.masters key))) (looks : K (get : Run EngineError Node))

include chained asks

theorem chained_searchMasters {goal : ObjectKey} {steps : Nat} {pending : List ObjectKey}
    {visited : ObjectSet} :
    K (searchMasters (fun key => demand (.masters key)) goal steps pending visited) := by
  induction steps generalizing pending visited with
  | zero => cases pending <;> exact chained.pure _
  | succ steps ih =>
      cases pending with
      | nil => exact chained.pure _
      | cons key pending =>
          rw [searchMasters]
          split
          · exact chained.pure _
          · split
            · exact ih
            · exact chained.bind (asks key) fun _ => ih

include looks in
theorem chained_dependsOn (deep : K (throw .tooDeep : Run EngineError Bool)) :
    K (dependsOn dependent target) := by
  refine chained.bind (asks target) fun masters => chained.bind looks fun node => ?_
  refine chained.bind (chained_searchMasters chained asks) fun found => ?_
  cases found with
  | none => exact deep
  | some found => exact chained.pure found

end Chained

theorem asks_dependsOn : Keeps Consulted (dependsOn dependent target) :=
  chained_dependsOn (Keeps.composed Consulted.refl @Consulted.trans).chained
    (fun key => asks_demand (.masters key) trivial) Consulted.refl (Keeps.throw Consulted.refl _)

/-- Whatever is demanded, at most that is done. -/
theorem ends_demand_any {call : StoreCall} : (demand call).Ends node fun _ after =>
    Consulted node after ∨ Performed call node after :=
  ends_demand (fun _ _ _ => .inl) (fun _ _ done _ => .inr done) (fun _ _ _ _ _ _ => .inl)
    fun _ _ done _ => .inr done

/-- Even where the two sides of the ledger tell different things, at most an edge is recorded, and that is told. -/
theorem ends_reserve_any : (reserve resource master slave).Ends node fun result after =>
    Consulted node after ∨ result = .ok true ∧ Performed (.link master slave) node after := by
  refine (asks_dependsOn node).bind ?_ fun _ _ => .inl
  intro found mid asked
  split
  · exact .inl asked
  · refine (asks_demand (.masters slave) trivial mid).bind ?_ fun _ _ further =>
      .inl (asked.trans further)
    intro masters last further
    have told := asked.trans further
    split
    · exact .inl told
    · split
      · exact .inl (told.trans (.marked trivial))
      · have linked : (demand (.link master slave)).Ends last fun result after =>
            match result with
            | .ok _ => Performed (.link master slave) last after
            | .error _ => Consulted last after :=
          ends_demand_order ⟨(), rfl⟩ (fun _ same => nomatch same) (fun _ _ _ asked => asked)
            fun _ _ done _ => done
        apply linked.bind
        · exact fun _ _ done => .inr ⟨rfl, told.performed done⟩
        · exact fun _ _ asked => .inl (told.trans asked)

theorem Engine.ends_checkAndReserve_any : (Engine.checkAndReserve resource master slave).Ends node
    fun result after => Consulted node after ∨ result = .ok true ∧ Performed (.link master slave) node after := by
  refine (asks_demand (.has slave) trivial node).bind ?_ fun _ _ => .inl
  intro present mid asked
  split
  · exact ends_reserve_any.imp fun _ last course => course.imp asked.trans fun linked =>
      ⟨linked.1, asked.performed linked.2⟩
  · exact .inl asked

/-! ## Before and after the scope -/

/-- A withdrawal takes back what was recorded, unless the store fails, and goes on either way. -/
theorem ends_withdraw {ε : Type} {recorded : Bool} :
    (withdraw recorded master slave : Run ε Unit).Ends node fun result after =>
      result = .ok () ∧ (Consulted node after ∧ (recorded = true → ¬node.faults.Calm) ∨
        recorded = true ∧ Performed (.unlink master slave) node after) := by
  cases recorded with
  | false => exact ⟨rfl, .inl ⟨Consulted.refl node, nofun⟩⟩
  | true =>
      have asked : (ask (.unlink master slave) : Run ε _).Ends node fun result after =>
          ∃ reply, result = .ok reply ∧
            (Consulted node after ∧ ¬node.faults.Calm ∨ Performed (.unlink master slave) node after) :=
        ends_ask (fun _ _ planned consulted => ⟨_, rfl, .inl ⟨consulted, FaultPlan.not_calm planned⟩⟩)
          (fun _ performed => ⟨_, rfl, .inr performed⟩)
      apply asked.bind
      · intro reply mid both
        obtain ⟨_, same, course⟩ := both
        cases reply with
        | ok => exact ⟨rfl, course.imp (fun told => ⟨told.1, fun _ => told.2⟩) fun done => ⟨rfl, done⟩⟩
        | error cause =>
            have told : Consulted mid (mid.marked
                (.reported (.withdrawalFailed master slave cause.message))) := .marked trivial
            exact ⟨rfl, course.imp (fun asked => ⟨asked.1.trans told, fun _ => asked.2⟩)
              fun done => ⟨rfl, done.consulted told⟩⟩
      · intro halt mid both
        obtain ⟨_, same, _⟩ := both
        cases same

/-- Why there is no resource of an object, and the error that tells it. -/
inductive Engine.Unresolved (engine : Engine) (store : MemoryStore) (key : ObjectKey) : EngineError → Prop where
  | absent (missing : store.record? key = none) : Unresolved engine store key (.objectDoesNotExist key)
  | unregistered {record : Record} (found : store.record? key = some record)
      (unknown : engine.resource? record.kind = none) :
      Unresolved engine store key (.resourceNotFound record.kind)

/-- The resource of an object is the one registered for the kind of its record. -/
theorem ends_resourceOf {engine : Engine} :
    (engine.resourceOf key).Ends node fun result after => Consulted node after ∧
      match result with
      | .ok resource => ∃ record, node.store.record? key = some record ∧
          engine.resource? record.kind = some resource
      | .error halt => ∃ error, halt = .error error ∧
          (node.faults.Calm → engine.Unresolved node.store key error) := by
  have asked : (ask (.get key) : Run EngineError _).Ends node fun result after =>
      Consulted node after ∧ ∃ reply, result = .ok reply ∧
        match reply with
        | .ok record => node.store.record? key = some record
        | .error cause => node.faults.Calm → node.store.record? key = none ∧ cause = .notFound key := by
    apply ends_ask
    · intro fault after planned consulted
      refine ⟨consulted, _, rfl, ?_⟩
      cases answered : fault.answer (.get key) with
      | ok record =>
          obtain ⟨_, _, same, -⟩ := Fault.answer_eq_ok answered
          cases same
      | error cause => exact fun calm => absurd calm (FaultPlan.not_calm planned)
    · intro after performed
      refine ⟨performed.ofReads trivial, _, rfl, ?_⟩
      cases found : node.store.record? key with
      | none => simp [MemoryStore.answer, found]
      | some record => simp [MemoryStore.answer, found]
  apply asked.bind
  · intro reply mid both
    obtain ⟨consulted, _, same, truth⟩ := both
    cases same
    cases reply with
    | ok record =>
        dsimp only
        cases registered : engine.resource? record.kind with
        | none => exact ⟨consulted, _, rfl, fun _ => .unregistered truth registered⟩
        | some resource => exact ⟨consulted, record, truth, registered⟩
    | error cause =>
        cases cause with
        | notFound => exact ⟨consulted, _, rfl, fun calm => .absent (truth calm).1⟩
        | backend =>
            refine ⟨consulted, _, rfl, fun calm => ?_⟩
            cases (truth calm).2
  · intro halt mid both
    obtain ⟨_, _, same, _⟩ := both
    cases same

/-- What is looked up for a reservation is the resource of its slave's record, and the slave is not its
    master. -/
theorem Engine.ends_resolve {engine : Engine} :
    (engine.resolve master slave).Ends node fun result after => Consulted node after ∧
      match result with
      | .ok resource => master ≠ slave ∧ ∃ record, node.store.record? slave = some record ∧
          engine.resource? record.kind = some resource
      | .error halt => ∃ error, halt = .error (.engine error) ∧
          (master = slave ∧ error = .dependencyCycle master slave ∨
            (node.faults.Calm → engine.Unresolved node.store slave error)) := by
  unfold Engine.resolve
  split
  next same => exact ⟨.refl node, _, rfl, .inl ⟨same, rfl⟩⟩
  next different =>
    rw [ends_mapError]
    refine ends_resourceOf.imp fun result after ⟨asked, looked⟩ => ⟨asked, ?_⟩
    cases result with
    | ok resource => exact ⟨different, looked⟩
    | error halt =>
        obtain ⟨error, rfl, why⟩ := looked
        exact ⟨error, rfl, .inr why⟩

/-! ## Under the lock of the slave -/

namespace Engine

variable {scope : Run ActionError RawJson}

/-- What a reservation does while it holds the lock of its slave. -/
def holdReservation (resource : Resource) (master slave : ObjectKey)
    (scope : Run ActionError RawJson) : Run ActionError RawJson := do
  let recorded ← (checkAndReserve resource master slave).mapError .engine
  match ← attempt (within (.scope .add slave) scope) with
  | .ok output =>
    report (.dependencyAdded master slave)
    return output
  | .error error =>
    withdraw recorded master slave
    fail error

theorem composed_holdReservation {K : ∀ {ε α : Type}, Run ε α → Prop} (composed : Composed K)
    (checks : K ((checkAndReserve resource master slave).mapError ActionError.engine))
    (body : K (within (.scope .add slave) scope : Run ActionError RawJson))
    (withdraws : ∀ recorded, K (withdraw recorded master slave : Run ActionError Unit))
    (tells : ∀ event, K (report event : Run ActionError Unit)) :
    K (holdReservation resource master slave scope) := by
  refine composed.bind checks fun recorded => ?_
  refine composed.bind (composed.attempt body) fun outcome => ?_
  cases outcome with
  | ok output => exact composed.bind (tells _) fun _ => composed.pure output
  | error error => exact composed.bind (withdraws recorded) fun _ => composed.fail error

theorem addResolved_eq : addResolved resource master slave scope =
    within (.dependency .add slave)
      (guarded .shared slave .shared (holdReservation resource master slave scope)) := rfl

/-- What a reservation does to a node under the lock of its slave: it is refused, or its scope runs,
    and what was recorded may be taken back after that. -/
inductive Reserves (resource : Resource) (master slave : ObjectKey)
    (scope : Run ActionError RawJson) (node : Node) : Node → Prop where
  | refused {halt : Halt EngineError} {after : Node}
      (checked : Checked resource master slave node (.error halt) after) :
      Reserves resource master slave scope node after
  | kept {recorded : Bool} {outcome : Except (Halt ActionError) RawJson} {mid done after : Node}
      (checked : Checked resource master slave node (.ok recorded) mid)
      (ran : scope (mid.marked (.began (.scope .add slave))) = (outcome, done))
      (asked : Consulted (done.marked (.ended (.scope .add slave))) after) :
      Reserves resource master slave scope node after
  | withdrawn {error : ActionError} {mid done after : Node}
      (checked : Checked resource master slave node (.ok true) mid)
      (ran : scope (mid.marked (.began (.scope .add slave))) = (.error (.error error), done))
      (undone : Performed (.unlink master slave) (done.marked (.ended (.scope .add slave))) after) :
      Reserves resource master slave scope node after

theorem ends_holdReservation (paired : node.store.Paired) :
    (holdReservation resource master slave scope).Ends node fun _ after =>
      Reserves resource master slave scope node after := by
  have checks : ((checkAndReserve resource master slave).mapError ActionError.engine).Ends node
      fun result mid => match result with
        | .ok recorded => Checked resource master slave node (.ok recorded) mid
        | .error _ => ∃ halt, Checked resource master slave node (.error halt) mid := by
    rw [ends_mapError]
    refine (ends_checkAndReserve paired).imp fun result mid checked => ?_
    cases result with
    | ok recorded => exact checked
    | error halt => exact ⟨halt, checked⟩
  refine checks.bind ?_ fun _ mid ⟨halt, refused⟩ => .refused refused
  intro recorded mid checked
  apply ends_attempt_within.bind
  · intro outcome after both
    obtain ⟨outcome', done, ran, same, rfl⟩ := both
    have ended := caught_eq_ok same.symm
    subst ended
    cases outcome with
    | ok output => exact .kept checked ran (.marked trivial)
    | error error =>
        apply ends_withdraw.bind
        · intro _ last both
          obtain ⟨-, ⟨asked, -⟩ | ⟨rfl, undone⟩⟩ := both
          · exact .kept checked ran asked
          · exact .withdrawn checked ran undone
        · intro halt last both
          obtain ⟨same, -⟩ := both
          cases same
  · intro halt after both
    obtain ⟨outcome, done, ran, -, rfl⟩ := both
    exact .kept checked ran (.refl _)

/-- What a release does while it holds the lock of its slave. -/
def holdRelease (master slave : ObjectKey) (scope : Run ActionError RawJson) :
    Run ActionError RawJson := do
  let output ← within (.scope .remove slave) scope
  (demand (.unlink master slave)).mapError .engine
  report (.dependencyRemoved master slave)
  return output

theorem composed_holdRelease {K : ∀ {ε α : Type}, Run ε α → Prop} (composed : Composed K)
    (body : K (within (.scope .remove slave) scope : Run ActionError RawJson))
    (unlinks : K ((demand (.unlink master slave)).mapError ActionError.engine))
    (tells : ∀ event, K (report event : Run ActionError Unit)) :
    K (holdRelease master slave scope) :=
  composed.bind body fun output => composed.bind unlinks fun _ =>
    composed.bind (tells _) fun _ => composed.pure output

theorem removeDependency_eq {engine : Engine} : engine.removeDependency master slave scope =
    (engine.resourceOf slave).mapError ActionError.engine >>= fun _ =>
      within (.dependency .remove slave)
        (guarded .shared slave .shared (holdRelease master slave scope)) := rfl

/-- What a release does to a node under the lock of its slave: its scope runs, and the edge is taken
    away if it succeeded. -/
inductive Releases (master slave : ObjectKey) (scope : Run ActionError RawJson) (node : Node) :
    Node → Prop where
  | failed {outcome : Except (Halt ActionError) RawJson} {done after : Node}
      (ran : scope (node.marked (.began (.scope .remove slave))) = (outcome, done))
      (asked : Consulted (done.marked (.ended (.scope .remove slave))) after) :
      Releases master slave scope node after
  | released {output : RawJson} {done after : Node}
      (ran : scope (node.marked (.began (.scope .remove slave))) = (.ok output, done))
      (undone : Performed (.unlink master slave) (done.marked (.ended (.scope .remove slave)))
        after) :
      Releases master slave scope node after

theorem ends_holdRelease : (holdRelease master slave scope).Ends node fun _ after =>
    Releases master slave scope node after := by
  have runs : (within (.scope .remove slave) scope).Ends node fun outcome after => ∃ done,
      scope (node.marked (.began (.scope .remove slave))) = (outcome, done) ∧
        after = done.marked (.ended (.scope .remove slave)) := ends_within.mpr ⟨_, rfl, rfl⟩
  apply runs.bind
  · intro output after both
    obtain ⟨done, ran, rfl⟩ := both
    have unlinks : ((demand (.unlink master slave)).mapError ActionError.engine).Ends
        (done.marked (.ended (.scope .remove slave))) fun result after =>
          Consulted (done.marked (.ended (.scope .remove slave))) after ∧
              (∃ halt, result = .error halt) ∨
            Performed (.unlink master slave) (done.marked (.ended (.scope .remove slave))) after ∧
              ∃ answer, result = .ok answer := by
      rw [ends_mapError]
      refine ends_demand_order ⟨(), rfl⟩ (fun _ same => nomatch same) ?_ ?_
      · exact fun cause after _ asked => .inl ⟨asked, _, rfl⟩
      · exact fun answer after undone _ => .inr ⟨undone, answer, rfl⟩
    apply unlinks.bind
    · intro answer last course
      rcases course with ⟨-, halt, same⟩ | ⟨undone, -⟩
      · cases same
      · exact .released ran (undone.consulted (.marked trivial))
    · intro halt last course
      rcases course with ⟨asked, -⟩ | ⟨-, answer, same⟩
      · exact .failed ran asked
      · cases same
  · intro halt after both
    obtain ⟨done, ran, rfl⟩ := both
    exact .failed ran (.refl _)

end Engine

end Provision
