import Provision.Proofs.Engine.Decision

/-! # Reservations are made as a whole or not at all

A reservation that breaks a rule is refused, and its scope does not run. One that breaks none runs its
scope, which sees the new edge, and ends as the scope does: with a value the edge stays, with an error just
that is taken back which the reservation has recorded. So whoever is told of an error finds the ledger as
it was, with the edge in it if it was there before.
-/

namespace Provision

open Run Node Relation

/-! ## Ledgers before and after -/

namespace MemoryStore

/-- Two stores have the same records and the same edges. -/
structure Agrees (store other : MemoryStore) : Prop where
  records : other.records = store.records
  edges : ∀ master slave, other.Relies master slave ↔ store.Relies master slave

/-- A store has the records and the edges of another one, and an edge from a master to a slave. -/
structure Gains (store : MemoryStore) (master slave : ObjectKey) (other : MemoryStore) : Prop where
  records : other.records = store.records
  edges : ∀ m s, other.Relies m s ↔ m = master ∧ s = slave ∨ store.Relies m s

variable {store other last : MemoryStore} {master slave : ObjectKey}

theorem Agrees.of_eq (same : other = store) : store.Agrees other := ⟨by rw [same], fun _ _ => by rw [same]⟩

theorem Gains.of_relies (old : store.Relies master slave) : store.Gains master slave store where
  records := rfl
  edges m s := by
    refine (or_iff_right_of_imp ?_).symm
    rintro ⟨rfl, rfl⟩
    exact old

theorem gains_link : store.Gains master slave (store.after (.link master slave)) where
  records := rfl
  edges _ _ := relies_after

namespace Gains

theorem agrees (gains : store.Gains master slave other) (same : other.Agrees last) :
    store.Gains master slave last :=
  ⟨same.records.trans gains.records, fun m s => (same.edges m s).trans (gains.edges m s)⟩

/-- Nothing is gained by an edge that was there. -/
theorem kept (gains : store.Gains master slave other) (old : store.Relies master slave) :
    store.Agrees other where
  records := gains.records
  edges m s := by
    rw [gains.edges]
    refine or_iff_right_of_imp ?_
    rintro ⟨rfl, rfl⟩
    exact old

/-- A new edge is taken back. -/
theorem withdrawn (gains : store.Gains master slave other) (new : ¬store.Relies master slave) :
    store.Agrees (other.after (.unlink master slave)) where
  records := gains.records
  edges m s := by
    rw [relies_after]
    dsimp only
    rw [gains.edges]
    constructor
    · rintro ⟨same | old, other⟩
      · exact absurd same other
      · exact old
    · intro old
      refine ⟨.inr old, ?_⟩
      rintro ⟨rfl, rfl⟩
      exact new old

end Gains

end MemoryStore

/-! ## The rules -/

namespace Engine

/-- The rules that a reservation breaks, each by the error that it is refused with. -/
inductive Denies (engine : Engine) (store : MemoryStore) (master slave : ObjectKey) : EngineError → Prop where
  | own (same : master = slave) : Denies engine store master slave (.dependencyCycle master slave)
  | unresolved {error : EngineError} (why : engine.Unresolved store slave error) :
      Denies engine store master slave error
  | cyclic (path : TransGen store.Relies slave master) :
      Denies engine store master slave (.dependencyCycle master slave)
  | taken {record : Record} {resource : Resource} {other : ObjectKey}
      (found : store.record? slave = some record) (registered : engine.resource? record.kind = some resource)
      (exclusive : resource.flags.isExclusive = true) (relies : store.Relies other slave)
      (new : ¬store.Relies master slave) : Denies engine store master slave (.objectInUse slave)

/-- A reservation keeps all the rules: no object is reserved for itself, the slave is there and of a
    registered kind, no cycle is closed, and a slave that is for one master only has no other one. -/
structure Admits (engine : Engine) (store : MemoryStore) (master slave : ObjectKey) : Prop where
  different : master ≠ slave
  resolved : ∃ record resource, store.record? slave = some record ∧
    engine.resource? record.kind = some resource ∧
    (resource.flags.isExclusive = true → store.Relies master slave ∨ ∀ other, ¬store.Relies other slave)
  acyclic : ¬TransGen store.Relies slave master

variable {engine : Engine} {store : MemoryStore} {master slave : ObjectKey} {error : EngineError}

theorem Admits.not_denies (admits : engine.Admits store master slave) :
    ¬engine.Denies store master slave error := by
  intro denies
  obtain ⟨record, resource, found, registered, single⟩ := admits.resolved
  cases denies with
  | own same => exact admits.different same
  | unresolved why =>
      cases why with
      | absent missing => simp [found] at missing
      | unregistered also unknown =>
          cases found.symm.trans also
          simp [registered] at unknown
  | cyclic path => exact admits.acyclic path
  | taken also registered' exclusive relies new =>
      cases found.symm.trans also
      cases registered.symm.trans registered'
      rcases single exclusive with old | free
      · exact new old
      · exact free _ relies

end Engine

/-! ## Under the lock of the slave -/

/-- A reservation may run its scope: its edge is there, recorded just if it is new. -/
structure Node.Grants (node : Node) (master slave : ObjectKey) (recorded : Bool) (after : Node) : Prop where
  gains : node.store.Gains master slave after.store
  new : recorded = true ↔ ¬node.store.Relies master slave
  guards : after.guards = node.guards
  schedule : SamePlan node after

section Checks

variable {engine : Engine} {resource : Resource} {master slave : ObjectKey} {node after : Node}
  {result : Except (Halt EngineError) Bool}

/-- The checks under the lock refuse a reservation that breaks a rule, and grant any other. -/
theorem Checked.decides (checked : Checked resource master slave node result after) (calm : node.faults.Calm)
    (different : master ≠ slave) {record : Record} (found : node.store.record? slave = some record)
    (registered : engine.resource? record.kind = some resource) :
    (∃ error, engine.Denies node.store master slave error ∧ result = .error (.error error) ∧
      Consulted node after) ∨
    ∃ recorded, engine.Admits node.store master slave ∧ result = .ok recorded ∧
      node.Grants master slave recorded after := by
  cases checked with
  | absent asked missing =>
      have present := MemoryStore.hasRecord_iff.mpr ⟨record, found⟩
      rw [missing calm.honest] at present
      cases present
  | failed wrong asked => exact absurd calm wrong
  | present _ reserved =>
      cases reserved with
      | failed wrong asked => exact absurd calm wrong
      | cyclic asked path => exact .inl ⟨_, .cyclic path, rfl, asked⟩
      | taken asked _ exclusive relies new =>
          exact .inl ⟨_, .taken found registered exclusive relies new, rfl, asked⟩
      | known asked apart old =>
          have admits : engine.Admits node.store master slave :=
            ⟨different, ⟨_, _, found, registered, fun _ => .inl old⟩, apart⟩
          refine .inr ⟨_, admits, rfl, ?_, by simp [old], asked.guards, asked.schedule⟩
          rw [asked.store]
          exact .of_relies old
      | recorded done apart new single =>
          have admits : engine.Admits node.store master slave :=
            ⟨different, ⟨_, _, found, registered, fun exclusive => .inr (single exclusive)⟩, apart⟩
          refine .inr ⟨_, admits, rfl, ?_, by simp [new], done.guards, done.schedule⟩
          rw [done.store]
          exact MemoryStore.gains_link

end Checks

namespace Engine

variable {engine : Engine} {resource : Resource} {master slave : ObjectKey} {node mid done : Node}
  {scope : Run ActionError RawJson} {outcome : Except (Halt ActionError) RawJson}

/-- What is taken back after a scope: the edge that was recorded, if the scope failed. -/
def undoes? (recorded : Bool) (master slave : ObjectKey) :
    Except (Halt ActionError) RawJson → Option StoreCall
  | .error (.error _) => if recorded then some (.unlink master slave) else none
  | .error _ | .ok _ => none

/-- A reservation that is granted ends as its scope does. -/
theorem ends_holdReservation_of_passed {recorded : Bool}
    (passed : checkAndReserve resource master slave node = (.ok recorded, mid))
    (ran : scope (mid.marked (.began (.scope .add slave))) = (outcome, done)) (calm : done.faults.Calm) :
    (holdReservation resource master slave scope).Ends node fun result after => result = outcome ∧
      Obeys (undoes? recorded master slave outcome) (done.marked (.ended (.scope .add slave))) after := by
  have checks : ((checkAndReserve resource master slave).mapError ActionError.engine).Ends node
      fun result last => result = .ok recorded ∧ last = mid := by
    rw [ends_mapError, Ends, passed]
    exact ⟨rfl, rfl⟩
  apply checks.bind
  · rintro _ _ ⟨⟨⟩, rfl⟩
    apply ends_attempt_within.bind
    · rintro result last ⟨outcome', done', ran', same, rfl⟩
      cases ran.symm.trans ran'
      obtain rfl := caught_eq_ok same.symm
      cases result with
      | ok output => exact ⟨rfl, .marked trivial⟩
      | error error =>
          apply ends_withdraw.bind
          · rintro _ after ⟨-, ⟨asked, kept⟩ | ⟨rfl, undone⟩⟩
            · cases recorded with
              | false => exact ⟨rfl, asked⟩
              | true => exact absurd calm (kept rfl)
            · exact ⟨rfl, undone⟩
          · rintro _ _ ⟨⟨⟩, -⟩
    · rintro halt last ⟨outcome', done', ran', same, rfl⟩
      cases ran.symm.trans ran'
      cases outcome with
      | ok => cases same
      | error stopped => cases stopped <;> cases same <;> exact ⟨rfl, .refl _⟩
  · rintro _ _ ⟨⟨⟩, -⟩

end Engine

/-! ## Reservations -/

/-- The node on which a reservation is checked: the lock of its slave has been taken. -/
def Node.reserving (node : Node) (slave : ObjectKey) (held : GuardTable) : Node :=
  (node.marked (.began (.dependency .add slave))).withTable .shared held

/-- The records and edges are as they were, the same is planned to go wrong, and the guards and locks that
    were taken have been given back. -/
structure Node.Restores (node after : Node) : Prop where
  store : node.store.Agrees after.store
  guards : GivesBack node after
  schedule : SamePlan node after

/-- For a program only the store is to be looked after. -/
theorem Node.Restores.of_run {engine : Engine} (built : engine.Built) (depth : Nat) (program : Program)
    {node : Node} (same : node.store.Agrees (engine.run depth program node).2.store) :
    node.Restores (engine.run depth program node).2 :=
  ⟨same, GivesBack.run built depth program node, SamePlan.run engine depth program node⟩

theorem GivesBack.obeys {order? : Option StoreCall} {node after : Node} (obeys : Obeys order? node after) :
    GivesBack node after := by
  cases order? with
  | none => exact framing.consulted obeys
  | some order => exact performed obeys

namespace Engine

variable {engine : Engine} {resource : Resource} {master slave : ObjectKey} {node mid done after : Node}
  {recorded : Bool} {scope : Run ActionError RawJson} {outcome : Except (Halt ActionError) RawJson}

/-- A reservation ends in an error with the ledger as it was, or with a value and its edge. -/
structure Settles (master slave : ObjectKey) (store : MemoryStore) (result : Except (Halt ActionError) RawJson)
    (after : Node) : Prop where
  failed : ∀ error, result = .error (.error error) → store.Agrees after.store
  made : ∀ output, result = .ok output → store.Gains master slave after.store

/-- What is taken back is just what was gained. -/
theorem settles_of_obeys (grants : node.Grants master slave recorded mid) (kept : mid.store.Agrees done.store)
    (obeys : Obeys (undoes? recorded master slave outcome) (done.marked (.ended (.scope .add slave))) after) :
    Settles master slave node.store outcome after := by
  have gains := grants.gains.agrees kept
  constructor
  · rintro error rfl
    cases recorded with
    | true =>
        have undone : Performed (.unlink master slave) (done.marked (.ended (.scope .add slave))) after := obeys
        rw [undone.store]
        exact gains.withdrawn (grants.new.mp rfl)
    | false =>
        have asked : Consulted (done.marked (.ended (.scope .add slave))) after := obeys
        rw [asked.store]
        exact gains.kept (not_not.mp fun new => Bool.false_ne_true (grants.new.mpr new))
  · rintro output rfl
    have asked : Consulted (done.marked (.ended (.scope .add slave))) after := obeys
    rw [asked.store]
    exact gains

/-- How a reservation comes out with any scope: it is refused whatever the scope is, or it ends as the scope
    does on a node that has the edge. -/
inductive ComesOut (engine : Engine) (master slave : ObjectKey) (store : MemoryStore)
    (reservation : Run ActionError RawJson → Except (Halt ActionError) RawJson × Node) : Prop where
  | refused {error : EngineError} {after : Node} (denies : engine.Denies store master slave error)
      (same : after.store = store)
      (ends : ∀ scope, reservation scope = (.error (.error (.engine error)), after)) :
      ComesOut engine master slave store reservation
  | granted (inside : Node) (admits : engine.Admits store master slave)
      (gains : store.Gains master slave inside.store)
      (ends : ∀ scope, inside.Restores (scope inside).2 → ∃ after,
        reservation scope = ((scope inside).1, after) ∧ Settles master slave store (scope inside).1 after) :
      ComesOut engine master slave store reservation

section Locked

variable {hold : Hold} {held left : GuardTable}
  (taken : node.guards.take? slave.text .shared = some (hold, held))

include taken

theorem exists_leave? (sound : node.guards.Sound) (gives : GivesBack (node.reserving slave held) after) :
    ∃ left, after.guards.leave? slave.text hold = some left := by
  obtain ⟨kept, agrees⟩ := gives (GuardTable.Sound.take? taken sound)
  obtain ⟨left, leaves, -⟩ := GuardTable.leave?_take? taken sound agrees kept
  exact ⟨left, leaves⟩

theorem addResolved_of_leave? (leaves : after.guards.leave? slave.text hold = some left)
    (ran : holdReservation resource master slave scope (node.reserving slave held) = (outcome, after)) :
    addResolved resource master slave scope node =
      (outcome, (after.withTable .shared left).marked (.ended (.dependency .add slave))) := by
  have taken' : ((node.marked (.began (.dependency .add slave))).table .shared).take? slave.text .shared =
      some (hold, held) := taken
  have leaves' : ((holdReservation resource master slave scope
      (node.reserving slave held)).2.table .shared).leave? slave.text hold = some left := by
    rw [ran]
    exact leaves
  have locked := guarded_of_leaves taken' leaves'
  rw [← reserving, ran] at locked
  exact within_of_eq locked

/-- A reservation that is refused under the lock of its slave is refused with any scope. -/
theorem addResolved_of_refused {error : EngineError} (sound : node.guards.Sound)
    (passed : checkAndReserve resource master slave (node.reserving slave held) = (.error (.error error), mid))
    (asked : Consulted (node.reserving slave held) mid) :
    ∃ after, after.store = node.store ∧ ∀ scope,
      addResolved resource master slave scope node = (.error (.error (.engine error)), after) := by
  obtain ⟨left, leaves⟩ := exists_leave? taken sound (GivesBack.framing.consulted asked)
  refine ⟨(mid.withTable .shared left).marked (.ended (.dependency .add slave)), asked.store, fun scope => ?_⟩
  refine addResolved_of_leave? taken leaves ?_
  exact bind_of_error (by rw [mapError, passed]; rfl)

/-- A reservation that is granted under the lock of its slave runs its scope, and settles as that ends. -/
theorem addResolved_of_granted (sound : node.guards.Sound) (calm : done.faults.Calm)
    (passed : checkAndReserve resource master slave (node.reserving slave held) = (.ok recorded, mid))
    (grants : (node.reserving slave held).Grants master slave recorded mid)
    (ran : scope (mid.marked (.began (.scope .add slave))) = (outcome, done))
    (restores : (mid.marked (.began (.scope .add slave))).Restores done) :
    ∃ after, addResolved resource master slave scope node = (outcome, after) ∧
      Settles master slave node.store outcome after := by
  cases ended : holdReservation resource master slave scope (node.reserving slave held) with
  | mk result last =>
  obtain ⟨rfl, obeys⟩ := (ends_holdReservation_of_passed passed ran calm).of_eq ended
  have opened : GivesBack (node.reserving slave held) (mid.marked (.began (.scope .add slave))) :=
    .of_guards grants.guards
  have during := GivesBack.framing.trans opened restores.guards
  have closed := GivesBack.framing.trans (GivesBack.framing.ended done _ trivial) (GivesBack.obeys obeys)
  have gives := GivesBack.framing.trans during closed
  obtain ⟨left, leaves⟩ := exists_leave? taken sound gives
  have settles := settles_of_obeys grants restores.store obeys
  exact ⟨_, addResolved_of_leave? taken leaves ended, settles.failed, settles.made⟩

end Locked

section Free

variable (paired : node.store.Paired) (calm : node.faults.Calm) (sound : node.guards.Sound)
  (unheld : ¬node.guards.Holds slave.text .exclusive)

include paired calm sound unheld

/-- A reservation whose slave has a resource is decided under the lock of the slave. -/
theorem addResolved_comesOut (different : master ≠ slave) {record : Record}
    (found : node.store.record? slave = some record)
    (registered : engine.resource? record.kind = some resource) :
    engine.ComesOut master slave node.store fun scope => addResolved resource master slave scope node := by
  have free : (node.guards.take? slave.text .shared).isSome = true :=
    (GuardTable.take?_isSome_iff sound).mpr ⟨unheld, nofun⟩
  obtain ⟨⟨hold, held⟩, taken⟩ := Option.isSome_iff_exists.mp free
  -- To take the lock changes neither the store nor what is planned to go wrong.
  have paired' : (node.reserving slave held).store.Paired := paired
  have calm' : (node.reserving slave held).faults.Calm := calm
  cases passed : checkAndReserve resource master slave (node.reserving slave held) with
  | mk result mid =>
  have checked := (ends_checkAndReserve paired').of_eq passed
  obtain ⟨error, denies, rfl, told⟩ | ⟨recorded, admits, rfl, grants⟩ :=
    checked.decides calm' different found registered
  · obtain ⟨after, same, refused⟩ := addResolved_of_refused taken sound passed told
    exact .refused denies same refused
  · refine .granted (mid.marked (.began (.scope .add slave))) admits grants.gains fun scope restores => ?_
    have still := restores.schedule.calm (grants.schedule.calm calm')
    exact addResolved_of_granted taken sound still passed grants (Prod.mk.eta).symm restores

/-- A reservation breaks a rule and is refused, or it breaks none and its scope runs. -/
theorem addDependency_comesOut :
    engine.ComesOut master slave node.store fun scope => engine.addDependency master slave scope node := by
  cases resolved : engine.resolve master slave node with
  | mk result looked =>
  obtain ⟨asked, known⟩ := ends_resolve.of_eq resolved
  cases result with
  | error halt =>
      obtain ⟨error, rfl, why⟩ := known
      refine .refused ?_ asked.store fun scope => bind_of_error resolved
      rcases why with ⟨same, rfl⟩ | why
      · exact .own same
      · exact .unresolved (why calm)
  | ok resource =>
      obtain ⟨different, record, found, registered⟩ := known
      have rest : (fun scope => engine.addDependency master slave scope node) =
          fun scope => addResolved resource master slave scope looked := funext fun _ => bind_of_ok resolved
      rw [rest, ← asked.store]
      rw [← asked.store] at paired found
      rw [← asked.guards] at sound unheld
      exact addResolved_comesOut paired (asked.calm_iff.mpr calm) sound unheld different found registered

/-- When no call to the store goes wrong and the lock of its slave can be had, a reservation that breaks a
    rule is refused with its error, whatever its scope is, and the ledger is as it was. One that breaks none
    runs its scope, which sees the edge, and ends with the value or the error of the scope: with a value the
    edge has been added to the ledger, with an error the ledger is as it was. -/
theorem addDependency_all_or_nothing (engine : Engine) (master : ObjectKey) :
    (¬engine.Admits node.store master slave → ∃ error after,
      engine.Denies node.store master slave error ∧ node.store.Agrees after.store ∧
      ∀ scope, engine.addDependency master slave scope node = (.error (.error (.engine error)), after)) ∧
    (engine.Admits node.store master slave → ∃ inside, node.store.Gains master slave inside.store ∧
      ∀ scope, inside.Restores (scope inside).2 → ∃ after,
        engine.addDependency master slave scope node = ((scope inside).1, after) ∧
        Settles master slave node.store (scope inside).1 after) := by
  have course : engine.ComesOut master slave node.store _ := addDependency_comesOut paired calm sound unheld
  cases course with
  | refused denies same ends =>
      exact ⟨fun _ => ⟨_, _, denies, .of_eq same, ends⟩, fun admits => absurd denies admits.not_denies⟩
  | granted inside admits gains ends =>
      exact ⟨fun denied => absurd admits denied, fun _ => ⟨inside, gains, ends⟩⟩

end Free

end Engine

namespace Small

/-- A disk is reserved for a virtual machine that is still to be made. -/
def reserved : Node where
  store := (MemoryStore.empty.write (object "a") ⟨"disk", []⟩).link (object "vm") (object "a")

theorem reserved_relies {master slave : ObjectKey} :
    reserved.store.Relies master slave ↔ master = object "vm" ∧ slave = object "a" := by
  rw [reserved, MemoryStore.relies_link]
  exact or_iff_left MemoryStore.not_relies_empty

theorem reserved_found : reserved.store.record? (object "a") = some ⟨"disk", []⟩ := by decide +kernel

theorem reserved_admits : engine.Admits reserved.store (object "vm") (object "a") where
  different := by decide
  resolved := ⟨_, _, reserved_found, rfl, fun _ => .inl (reserved_relies.mpr ⟨rfl, rfl⟩)⟩
  acyclic path := by
    obtain ⟨_, first, -⟩ := TransGen.head'_iff.mp path
    exact absurd (reserved_relies.mp first).1 (by decide)

theorem reserved_denies :
    engine.Denies reserved.store (object "other") (object "a") (.objectInUse (object "a")) := by
  have relies : reserved.store.Relies (object "vm") (object "a") := reserved_relies.mpr ⟨rfl, rfl⟩
  have new : ¬reserved.store.Relies (object "other") (object "a") := fun also =>
    absurd (reserved_relies.mp also).1 (by decide)
  exact .taken reserved_found rfl rfl relies new

end Small

/-- The disk is refused to another machine. It is granted once more to the one that has it, and stays
    reserved when the scope fails. -/
theorem addDependency_all_or_nothing_reserved :
    (Small.reserved.store.Paired ∧ Small.reserved.faults.Calm ∧ Small.reserved.guards.Sound ∧
      ¬Small.reserved.guards.Holds (Small.object "a").text .exclusive) ∧
    (∃ error after, ∀ scope, Small.engine.addDependency (Small.object "other") (Small.object "a") scope
      Small.reserved = (.error (.error (.engine error)), after)) ∧
    ∃ after, Small.engine.addDependency (Small.object "vm") (Small.object "a")
        (Small.engine.run 9 (.done (.error (.failed "no capacity")))) Small.reserved =
          (.error (.error (.failed "no capacity")), after) ∧
      after.store.Relies (Small.object "vm") (Small.object "a") := by
  have paired : Small.reserved.store.Paired := (MemoryStore.paired_empty.after (.write _ _)).link
  have calm : Small.reserved.faults.Calm := FaultPlan.calm_none
  have sound : Small.reserved.guards.Sound := GuardTable.sound_empty
  have unheld : ¬Small.reserved.guards.Holds (Small.object "a").text .exclusive := by
    rintro ⟨entry, -, member⟩
    cases member
  have general := fun master => Engine.addDependency_all_or_nothing paired calm sound unheld Small.engine master
  refine ⟨⟨paired, calm, sound, unheld⟩, ?_, ?_⟩
  · obtain ⟨error, after, -, -, refused⟩ := (general (Small.object "other")).1 fun admits =>
      admits.not_denies Small.reserved_denies
    exact ⟨error, after, refused⟩
  · obtain ⟨inside, -, ends⟩ := (general (Small.object "vm")).2 Small.reserved_admits
    obtain ⟨after, ended, settles⟩ := ends (Small.engine.run 9 (.done (.error (.failed "no capacity"))))
      (.of_run Small.engine_built 9 _ (.of_eq rfl))
    exact ⟨after, ended, ((settles.failed _ rfl).edges _ _).mpr (Small.reserved_relies.mpr ⟨rfl, rfl⟩)⟩

end Provision
