import Provision.Proofs.Dependency.Anchored

/-! # One master for an exclusive object

A reservation looks up the resource of its slave before it takes the lock. If the record is still of the
kind that was looked up when the lock is taken, nothing is overlooked, and an exclusive object gets one
master only: while a lock of an object is held its record keeps its kind, for only the handler of the
object writes the record, and only as its own kind.
-/

namespace Provision

open Run Node Relation

/-- A kind is registered for objects with one master each. -/
def Engine.Exclusive (engine : Engine) (kind : String) : Prop :=
  ∃ resource, engine.resource? kind = some resource ∧ resource.flags.isExclusive = true

namespace MemoryStore

variable {store : MemoryStore} {engine : Engine} {call : StoreCall}

/-- An object whose record is of an exclusive kind has at most one master. -/
def Single (engine : Engine) (store : MemoryStore) : Prop :=
  ∀ key record, store.record? key = some record → engine.Exclusive record.kind →
    ∀ master other, store.Relies master key → store.Relies other key → master = other

theorem single_empty : empty.Single engine := fun _ _ _ _ _ _ edge => absurd edge not_relies_empty

theorem record?_of_after {key : ObjectKey} {record : Record}
    (found : (store.after call).record? key = some record) :
    store.record? key = some record ∨ call = .write key record := by
  rw [record?_after] at found
  cases call with
  | write at' new =>
      dsimp only at found
      split at found
      next same =>
        cases found
        exact .inr (by rw [same])
      next => exact .inl found
  | remove at' =>
      dsimp only at found
      split at found
      · cases found
      · exact .inl found
  | get | has | link | unlink | release | masters => exact .inl found

/-- An order leaves exclusive objects with one master if it writes no record as another kind, and adds
    no edge to an exclusive object with a master. -/
theorem Single.after (single : store.Single engine) (anchored : store.Anchored)
    (writes : ∀ key record old, call = .write key record → store.record? key = some old →
      old.kind = record.kind)
    (links : ∀ master slave record, call = .link master slave → store.record? slave = some record →
      engine.Exclusive record.kind → ∀ other, store.Relies other slave → other = master) :
    (store.after call).Single engine := by
  intro key record found exclusive
  -- Whatever the order is, the object had a record of this kind or no master before.
  have kept : ∀ master, store.Relies master key →
      ∃ old, store.record? key = some old ∧ engine.Exclusive old.kind := by
    intro master edge
    rcases record?_of_after found with old | new
    · exact ⟨record, old, exclusive⟩
    · have present := anchored master key edge
      rw [hasRecord_eq, Option.isSome_iff_exists] at present
      obtain ⟨old, stored⟩ := present
      exact ⟨old, stored, writes key record old new stored ▸ exclusive⟩
  have before : ∀ master other, store.Relies master key → store.Relies other key →
      master = other := by
    intro master other edge edge'
    obtain ⟨old, stored, exclusive⟩ := kept master edge
    exact single key old stored exclusive master other edge edge'
  intro master other edge edge'
  rw [relies_after] at edge edge'
  cases call with
  | get | has | masters | write => exact before master other edge edge'
  | unlink | release | remove => exact before master other edge.1 edge'.1
  | link m s =>
      have first : ∀ other, s = key → store.Relies other key → other = m := by
        rintro other rfl old
        obtain ⟨record, stored, exclusive⟩ := kept other old
        exact links m s record rfl stored exclusive other old
      rcases edge with ⟨rfl, same⟩ | old <;> rcases edge' with ⟨rfl, same'⟩ | old'
      · rfl
      · exact (first other same.symm old').symm
      · exact first master same'.symm old
      · exact before master other old old'

end MemoryStore

/-- At a moment whatever is relied on has a record, and exclusive objects have one master. -/
structure SettledAt (engine : Engine) (past : List Mark) : Prop where
  anchored : (storeAfter past).Anchored
  single : (storeAfter past).Single engine

/-- What an actor may do if handlers store only records of their own kind for their own object. -/
def OwnRecords : Actor → Deed → Prop
  | .handler kind object, .store call => call.Reads ∨ ∃ data, call = .write object ⟨kind, data⟩
  | .caller, .store call => call.Reads
  | _, .call _ | _, .depend .. => True

/-- A reservation overlooks that its slave is for one master and has one: the resource that was looked
    up is for any number, but the record is of another kind now. -/
structure Engine.Overlooks (engine : Engine) (resource : Resource) (store : MemoryStore)
    (master slave : ObjectKey) : Prop where
  shared : resource.flags.isExclusive = false
  exclusive : ∃ record, store.record? slave = some record ∧ engine.Exclusive record.kind
  taken : ∃ other, store.Relies other slave
  new : ¬store.Relies master slave
  apart : ¬TransGen store.Relies slave master

/-- Nothing is overlooked while the record is of the kind that was looked up. -/
theorem Engine.not_overlooks {engine : Engine} {resource : Resource} {store : MemoryStore}
    {master slave : ObjectKey} {record : Record} (stored : store.record? slave = some record)
    (registered : engine.resource? record.kind = some resource) :
    ¬engine.Overlooks resource store master slave := by
  intro overlooks
  obtain ⟨record', stored', resource', registered', exclusive⟩ := overlooks.exclusive
  rw [stored] at stored'
  cases stored'
  rw [registered] at registered'
  cases registered'
  rw [overlooks.shared] at exclusive
  cases exclusive

/-- The records of what was locked are of the kinds that they were of. -/
def KeepsKinds (node after : Node) (key : ObjectKey) : Prop :=
  (∃ mode, node.guards.Holds key.text mode) → ∀ record, after.store.record? key = some record →
    ∃ old, node.store.record? key = some old ∧ old.kind = record.kind

/-- What a handler counts on: its object is locked and has no record of another kind. -/
def Fit : Actor → Node → Prop
  | .caller, _ => True
  | .handler kind object, node => (∃ mode, node.guards.Holds object.text mode) ∧
      ∀ record, node.store.record? object = some record → record.kind = kind

/-- Everything is settled after what was done for an actor, and what is locked is secure and of the
    kind that it was of, but for the object of the actor, which is of its kind. -/
structure Steady (engine : Engine) (actor : Actor) (node after : Node) : Prop where
  orderly : after.Orderly (SettledAt engine)
  secures : Secures node after
  fit : Fit actor after
  kinds : ∀ key, (∀ kind, actor ≠ .handler kind key) → KeepsKinds node after key

/-- Whoever starts on a settled node, and finds what he counts on, leaves it steady. -/
def KeepsSingle (engine : Engine) (actor : Actor) (node after : Node) : Prop :=
  node.Orderly (SettledAt engine) → Fit actor node → Steady engine actor node after

section Steady

variable {engine : Engine} {actor : Actor} {node mid after : Node} {call : StoreCall}
  {master slave key : ObjectKey} {resource : Resource} {body : Run ActionError RawJson}

theorem Fit.imp (fit : Fit actor node)
    (holds : ∀ key : ObjectKey, (∃ mode, node.guards.Holds key.text mode) →
      ∃ mode, after.guards.Holds key.text mode)
    (store : after.store = node.store) : Fit actor after := by
  cases actor with
  | caller => trivial
  | handler kind object => exact ⟨holds object fit.1, store ▸ fit.2⟩

theorem KeepsKinds.trans (agrees : node.guards.Agrees mid.guards) (first : KeepsKinds node mid key)
    (second : KeepsKinds mid after key) : KeepsKinds node after key := by
  intro held record found
  obtain ⟨between, stored, same⟩ := second (held.imp fun _ => agrees.holds_iff.mpr) record found
  obtain ⟨old, known, same'⟩ := first held between stored
  exact ⟨old, known, same'.trans same⟩

namespace Steady

/-- A node with the same locks and records is as steady. -/
theorem same (orderly : after.Orderly (SettledAt engine)) (fit : Fit actor node)
    (guards : node.guards.Agrees after.guards) (store : after.store = node.store) :
    Steady engine actor node after where
  orderly := orderly
  secures := ⟨guards, fun _ _ _ edge => store ▸ edge⟩
  fit := fit.imp (fun _ held => held.imp fun _ => guards.holds_iff.mpr) store
  kinds _ _ _ record found := ⟨record, store ▸ found, rfl⟩

theorem trans (first : Steady engine actor node mid) (second : Steady engine actor mid after) :
    Steady engine actor node after where
  orderly := second.orderly
  secures := first.secures.trans second.secures
  fit := second.fit
  kinds key foreign :=
    (first.kinds key foreign).trans first.secures.guards (second.kinds key foreign)

end Steady

namespace KeepsSingle

theorem idle (mark : Mark) (past : List Mark) (idle : mark.Idle) (settled : SettledAt engine past) :
    SettledAt engine (mark :: past) := by
  constructor <;> rw [idle.storeAfter]
  · exact settled.anchored
  · exact settled.single

theorem framing : Framing (fun _ => True) (KeepsSingle engine actor) where
  refl node orderly fit := .same orderly fit (.refl _) rfl
  trans a b c first second orderly fit := by
    have before := first orderly fit
    exact before.trans (second before.orderly before.fit)
  consulted asked orderly fit :=
    .same (orderly.consulted idle asked) fit (asked.guards ▸ .refl _) asked.store
  began node frame _ orderly fit :=
    .same (orderly.marked rfl ⟨orderly.traced.now.anchored, orderly.traced.now.single⟩) fit (.refl _)
      rfl
  ended node frame _ orderly fit :=
    .same (orderly.marked rfl ⟨orderly.traced.now.anchored, orderly.traced.now.single⟩) fit (.refl _)
      rfl

/-- What is allowed to a caller is allowed to a handler. -/
theorem ofCaller (keeps : KeepsSingle engine .caller node after) :
    KeepsSingle engine actor node after := by
  intro orderly fit
  have steady := keeps orderly trivial
  refine ⟨steady.orderly, steady.secures, ?_, fun key _ => steady.kinds key fun _ same => nomatch same⟩
  cases actor with
  | caller => trivial
  | handler kind object =>
      obtain ⟨held, own⟩ := fit
      refine ⟨held.imp fun _ => steady.secures.guards.holds_iff.mpr, fun record found => ?_⟩
      obtain ⟨old, stored, same⟩ := steady.kinds object (fun _ same => nomatch same) held record found
      exact same.symm.trans (own old stored)

/-- What an order must not do for things to stay as they are. -/
theorem performed (done : Performed call node after)
    (writes : ∀ key record, call = .write key record → actor = .handler record.kind key)
    (removes : ∀ key, call = .remove key → ∀ master, ¬node.store.Relies master key)
    (links : ∀ master slave, call = .link master slave → node.store.hasRecord slave = true ∧
      ¬node.guards.Holds slave.text .exclusive ∧ ∀ record, node.store.record? slave = some record →
        engine.Exclusive record.kind → ∀ other, node.store.Relies other slave → other = master) :
    KeepsSingle engine actor node after := by
  intro orderly fit
  have origin : ∀ key record, after.store.record? key = some record →
      node.store.record? key = some record ∨ call = .write key record := by
    intro key record found
    rw [done.store] at found
    exact MemoryStore.record?_of_after found
  have held : ∀ key mode, node.guards.Holds key mode → after.guards.Holds key mode :=
    fun _ _ held => done.guards ▸ held
  constructor
  · refine orderly.performed idle done fun past store _ settled => ?_
    constructor <;> rw [storeAfter, store]
    · exact (store ▸ settled.anchored).after removes fun master slave same => (links _ _ same).1
    · refine (store ▸ settled.single).after (store ▸ settled.anchored) ?_ ?_
      · intro key record old same stored
        rw [writes key record same] at fit
        exact fit.2 old stored
      · exact fun master slave record same => (links master slave same).2.2 record
  · exact .performed done fun master slave same => (links master slave same).2.1
  · cases actor with
    | caller => trivial
    | handler kind object =>
        obtain ⟨⟨mode, locked⟩, own⟩ := fit
        refine ⟨⟨mode, held _ _ locked⟩, fun record found => ?_⟩
        rcases origin object record found with old | new
        · exact own record old
        · cases writes object record new
          rfl
  · intro key foreign locked record found
    rcases origin key record found with old | new
    · exact ⟨record, old, rfl⟩
    · exact absurd (writes key record new) (foreign record.kind)

/-- Orders that write no records, remove none and add no edges change nothing that matters. -/
theorem ordered (done : Performed call node after) (writes : ∀ key record, call ≠ .write key record)
    (removes : ∀ key, call ≠ .remove key) (links : ∀ master slave, call ≠ .link master slave) :
    KeepsSingle engine actor node after :=
  performed done (fun key record same => absurd same (writes key record))
    (fun key same => absurd same (removes key))
    fun master slave same => absurd same (links master slave)

/-- A run under a lock of the engine leaves things steady if they are under the lock. -/
theorem guarded {ε α : Type} {mode : LockMode} {body : Run ε α}
    (runs : ∀ hold held, node.guards.Sound → node.guards.take? key.text mode = some (hold, held) →
      (node.withTable .shared held).Orderly (SettledAt engine) → Fit actor node →
      body.Ends (node.withTable .shared held) fun _ after => after.Orderly (SettledAt engine) ∧
        Secures (node.withTable .shared held) after ∧ Fit actor after ∧
          ∀ key, (∀ kind, actor ≠ .handler kind key) → KeepsKinds node after key) :
    (guarded .shared key mode body).Ends node fun _ after => KeepsSingle engine actor node after := by
  intro orderly fit
  have ends : (Run.guarded .shared key mode body).Ends node fun _ after =>
      after.Orderly (SettledAt engine) ∧ Secures node after ∧ Fit actor after ∧
        ∀ key, (∀ kind, actor ≠ .handler kind key) → KeepsKinds node after key := by
    have waits : Steady engine actor node node := .same orderly fit (.refl _) rfl
    refine orderly.guarded ⟨waits.secures, fit, waits.kinds⟩ fun hold held taken start => ?_
    refine (runs hold held orderly.sound taken start fit).imp ?_
    intro result after both
    obtain ⟨last, secures, fit', kinds⟩ := both
    refine ⟨last, secures.guards, fun left agrees => ⟨⟨agrees, ?_⟩, ?_, kinds⟩⟩
    · intro key locked master edge
      refine secures.masters key ?_ master edge
      exact (GuardTable.holds_take?_iff taken orderly.sound).mpr (.inr locked)
    · cases actor with
      | caller => trivial
      | handler kind object => exact ⟨fit.1.imp fun _ => agrees.holds_iff.mpr, fit'.2⟩
  obtain ⟨last, secures, fit', kinds⟩ := ends
  exact ⟨last, secures, fit', kinds⟩

theorem locking : Locking (KeepsSingle engine actor) where
  toFraming := framing
  guarded {ε α node key mode body} runs := by
    refine guarded fun hold held sound taken start fit => ?_
    have more : ∀ {id : String}, (∃ mode, node.guards.Holds id mode) → ∃ mode, held.Holds id mode :=
      fun locked => locked.imp fun _ before =>
        (GuardTable.holds_take?_iff taken sound).mpr (.inr before)
    refine (runs hold held taken).imp fun _ after keeps => ?_
    have steady := keeps start (fit.imp (fun _ => more) rfl)
    exact ⟨steady.orderly, steady.secures, steady.fit, fun key foreign locked =>
      steady.kinds key foreign (more locked)⟩
  paired keeps orderly fit := keeps orderly.traced.paired orderly fit
  unlinked undone := by
    refine ordered undone ?_ ?_ ?_
    · exact fun key record same => nomatch same
    · exact fun key same => nomatch same
    · exact fun master slave same => nomatch same

section Dispatch

variable {run : Program → Run ActionError RawJson} {request : Request} {action : Action}

/-- A dispatch under its lock does what its handler may do. -/
theorem dispatches
    (handler : Keeps (KeepsSingle engine (.handler resource.name key))
      (run (action.handler key request.payload)))
    (locked : node.guards.Holds key.text action.flags.mode)
    (alone : request.action = Resource.deleteAction → action.flags.mode = .exclusive)
    (course : resource.Dispatches run key request action node after) :
    KeepsSingle engine (.handler resource.name key) node after := by
  cases course with
  | refused asked => exact framing.consulted asked
  | handled passed _ ran asked =>
      exact framing.trans (framing.framed handler passed ran trivial) (framing.consulted asked)
  | gaveUp passed _ _ ran _ released =>
      refine framing.trans (framing.framed handler passed ran trivial) (ordered released ?_ ?_ ?_)
      · exact fun key record same => nomatch same
      · exact fun key same => nomatch same
      · exact fun master slave same => nomatch same
  | deleted passed _ deleting unused ran removed =>
      intro orderly fit
      have during := framing.framed handler passed ran trivial
      have between := during orderly fit
      refine framing.trans during (performed removed ?_ ?_ ?_) orderly fit
      · exact fun key record same => nomatch same
      · intro key' same master edge
        cases same
        -- The handler ran under the writer lock, so it let no master in.
        rw [alone deleting] at locked
        have old := between.secures.masters key locked master edge
        exact orderly.traced.paired.mastersOf_eq_nil_iff.mp unused master old
      · exact fun master slave same => nomatch same

/-- An object that was locked before was there, and a dispatch that runs nevertheless found it to be of
    its own kind. -/
theorem kinds_of_dispatches {hold : Hold} {held : GuardTable} (sound : node.guards.Sound)
    (taken : node.guards.take? key.text action.flags.mode = some (hold, held))
    (admits : resource.Admits request.action action.flags key node.store)
    (steady : Steady engine (.handler resource.name key) (node.withTable .shared held) after)
    (other : ObjectKey) : KeepsKinds node after other := by
  rintro ⟨mode, before⟩ record found
  by_cases own : other = key
  · subst own
    have old : action.flags.requiresNew = false := by
      by_contra new
      have alone := ActionFlags.mode_of_requiresNew ((Bool.not_eq_false _).mp new)
      exact GuardTable.not_holds_of_take?_exclusive taken alone before
    have present := admits.new
    rw [old, MemoryStore.hasRecord_eq, Bool.not_false, Option.isSome_iff_exists] at present
    obtain ⟨former, stored⟩ := present
    exact ⟨former, stored, (admits.kind former stored).trans (steady.fit.2 record found).symm⟩
  · refine steady.kinds other (fun kind same => ?_) ⟨mode, ?_⟩ record found
    · cases same
      exact own rfl
    · exact (GuardTable.holds_take?_iff taken sound).mpr (.inr before)

theorem dispatch
    (shared : resource.guards = .shared)
    (alone : ∀ action, resource.action? Resource.deleteAction = some action →
      action.flags.mode = .exclusive)
    (handled : ∀ action, resource.action? request.action = some action →
      Keeps (KeepsSingle engine (.handler resource.name key))
        (run (action.handler key request.payload))) :
    Keeps (KeepsSingle engine .caller) (resource.dispatch run key request) := by
  rw [Resource.dispatch_eq]
  split
  next unknown => exact Keeps.throw framing.refl _
  next action described =>
    rw [shared]
    refine fun start => framing.within trivial (guarded fun hold held sound taken settled _ => ?_)
    generalize start.marked _ = node at sound taken settled
    have locked : held.Holds key.text action.flags.mode := GuardTable.holds_of_take? taken
    refine Resource.ends_holdDispatch.imp fun _ after course => ?_
    have keeps := dispatches (handled action described) locked
      (fun deleting => alone action (deleting ▸ described)) course
    rcases course.asked_or_admits with asked | admits
    · exact ⟨settled.consulted idle asked, .consulted asked, trivial, fun _ _ _ record found =>
        ⟨record, asked.store ▸ found, rfl⟩⟩
    · have steady := keeps settled ⟨⟨_, locked⟩, (admits settled.honest).kind⟩
      exact ⟨steady.orderly, steady.secures, trivial, fun other _ =>
        kinds_of_dispatches sound taken (admits settled.honest) steady other⟩

end Dispatch

/-- A reservation that overlooks nothing when it takes the lock leaves things steady. -/
theorem addResolved (keeps : Keeps (KeepsSingle engine actor) body)
    (aware : ¬engine.Overlooks resource node.store master slave) :
    (Engine.addResolved resource master slave body).Ends node fun _ after =>
      KeepsSingle engine actor node after := by
  refine locking.addResolved keeps fun store free found reserved orderly => ?_
  rw [← store] at aware
  cases reserved with
  | recorded done apart new single =>
      refine performed done (fun _ _ same => nomatch same) (fun _ same => nomatch same) ?_ orderly
      intro m s same
      cases same
      refine ⟨found orderly.honest, free, fun record stored exclusive other relies => ?_⟩
      by_cases flagged : resource.flags.isExclusive = true
      · exact absurd relies (single flagged other)
      · exact absurd ⟨Bool.not_eq_true _ ▸ flagged, ⟨record, stored, exclusive⟩, ⟨other, relies⟩, new,
          apart⟩ aware

theorem ask (may : OwnRecords actor (.store call)) :
    Keeps (KeepsSingle engine actor) (ask call : Run ActionError _) := by
  intro node
  refine ends_ask (fun _ _ _ => framing.consulted) fun after done => ?_
  by_cases reads : call.Reads
  · exact framing.consulted (done.ofReads reads)
  · cases actor with
    | caller => exact absurd may reads
    | handler kind object =>
        obtain ⟨data, rfl⟩ := may.resolve_left reads
        refine performed done ?_ (fun _ same => nomatch same) fun _ _ same => nomatch same
        intro key record same
        cases same
        rfl

theorem upheld (built : engine.Built) :
    Upheld engine (· ∈ engine.resources) OwnRecords (KeepsSingle engine) where
  refl _ := framing.refl
  trans first second := framing.trans first second
  note _ node told := framing.consulted (.marked trivial)
  ask _ call may := ask may
  dispatch _ resource run key request member handled node := by
    refine ofCaller (dispatch (built.guards member) (fun action found => ?_) handled node)
    rw [ActionFlags.mode, built.deleteFlags member found]
    rfl
  add _ _ _ _ _ keeps := by
    refine framing.addDependency fun node resource record _ stored registered => ?_
    exact addResolved keeps (Engine.not_overlooks stored registered)
  remove _ _ _ _ _ := locking.removeDependency

end KeepsSingle

end Steady

section Runs

variable {engine : Engine} (built : engine.Built) (depth : Nat) {faults : FaultPlan}
  (honest : faults.Honest) {operations : List Operation}
  (handlers : ∀ resource ∈ engine.resources, resource.Confined OwnRecords)
  (callers : ∀ operation ∈ operations, operation.Confined (· ∈ engine.resources) OwnRecords)

include built honest handlers callers

theorem serve_steady :
    Steady engine .caller { faults } (engine.serve depth { faults } operations) := by
  refine (KeepsSingle.upheld built).serve (fun _ => id) handlers depth { faults } callers ?_ trivial
  exact orderly_start honest ⟨MemoryStore.anchored_empty, MemoryStore.single_empty⟩

/-- Exclusive objects have one master at every moment of every run from an empty store in which each
    operation is made when the one before it has ended, if handlers store only records of their own kind
    for their own object. -/
theorem serve_single :
    (engine.serve depth { faults } operations).Traced fun past => (storeAfter past).Single engine :=
  (serve_steady built depth honest handlers callers).orderly.traced.imp fun _ settled => settled.single

end Runs

end Provision
