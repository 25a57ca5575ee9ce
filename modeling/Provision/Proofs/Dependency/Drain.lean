import Mathlib.Data.Fintype.Card
import Mathlib.Data.Set.Finite.Basic
import Provision.Proofs.Dependency.Acyclic
import Provision.Proofs.Dependency.Owned

/-! # Draining a node

Between the calls every master has a record, and nothing relies on itself. So if anything is stored at
all, something is stored that nothing relies on. It can be deleted, and what it relied on is free then.
One after the other all objects can be deleted.
-/

namespace Provision

open Run Node Relation

namespace MemoryStore

variable {store : MemoryStore} {key : ObjectKey}

theorem finite_stored (store : MemoryStore) : Finite { key // store.hasRecord key = true } := by
  refine ((List.finite_toSet store.records.keys).subset fun key found => ?_).to_subtype
  exact Std.ExtTreeMap.mem_keys.mpr found

/-- Where nothing relies on itself, there is among the stored objects one on which none of them
    relies. -/
theorem Acyclic.exists_unused (acyclic : store.Acyclic) (found : store.hasRecord key = true) :
    ∃ first, store.hasRecord first = true ∧
      ∀ master, store.hasRecord master = true → ¬store.Relies master first := by
  let above (a b : { key // store.hasRecord key = true }) : Prop := TransGen store.Relies a b
  have : Finite { key // store.hasRecord key = true } := store.finite_stored
  have : IsTrans _ above := ⟨fun _ _ _ first second => first.trans second⟩
  have : Std.Irrefl above := ⟨fun a path => acyclic a path⟩
  obtain ⟨first, -, least⟩ :=
    (Finite.wellFounded_of_trans_of_irrefl above).has_min Set.univ ⟨⟨key, found⟩, trivial⟩
  exact ⟨first, first.2, fun master stored edge => least ⟨master, stored⟩ trivial (.single edge)⟩

theorem isEmpty_iff : store.isEmpty = true ↔ ∀ key, store.hasRecord key = false :=
  Std.ExtTreeMap.isEmpty_iff.trans Std.ExtTreeMap.eq_empty_iff_forall_contains

theorem isEmpty_eq_false_iff : store.isEmpty = false ↔ ∃ key, store.hasRecord key = true := by
  rw [← Bool.not_eq_true, isEmpty_iff]
  simp

theorem hasRecord_after_remove {other : ObjectKey} :
    (store.after (.remove key)).hasRecord other = true ↔ other ≠ key ∧ store.hasRecord other = true := by
  rw [hasRecord_iff, hasRecord_iff, record?_after]
  by_cases same : key = other
  · simp [same]
  · simp [same, Ne.symm same]

theorem size_after_remove (found : store.hasRecord key = true) :
    (store.after (.remove key)).size < store.size := by
  have records : (store.after (.remove key)).records = store.records.erase key := by
    rw [after_remove, if_pos found, release_snd]
    exact records_unlinkAll
  have some' : store.records.size ≠ 0 := by
    intro none'
    rw [hasRecord, Std.ExtTreeMap.eq_empty_iff_size_eq_zero.mpr none'] at found
    cases found
  have fewer : (store.records.erase key).size = store.records.size - 1 :=
    Std.ExtTreeMap.size_erase.trans (if_pos found)
  rw [size, size, records, fewer]
  omega

end MemoryStore

/-- The call that deletes an object of a kind. -/
def ObjectKey.deletion (key : ObjectKey) (kind : String) (payload : RawJson) : Call :=
  ⟨key.user, key.space, kind, { action := Resource.deleteAction, object := key.object, payload }⟩

/-- However a program is run, it ends with a value and changes nothing. -/
def Program.Idle (engine : Engine) (program : Program) : Prop :=
  ∀ depth node, node.faults.Calm → (engine.run depth program).Ends node fun result after =>
    (∃ output, result = .ok output) ∧ Consulted node after

/-- What is asked of the handlers of an engine that is to be drained: they are tidy, and objects of
    every kind can be deleted by a handler that changes nothing itself. -/
structure Engine.Drainable (engine : Engine) (payload : String → ObjectKey → RawJson) : Prop
    extends engine.Tidy where
  deletes : ∀ resource ∈ engine.resources, ∃ action,
    resource.action? Resource.deleteAction = some action ∧
      ∀ key, (action.handler key (payload resource.name key)).Idle engine

/-- The nodes that calls lead to, from an empty one. -/
inductive Engine.Reached (engine : Engine) : Node → Prop where
  | start : Reached engine .empty
  | call {node : Node} {depth : Nat} {call : Call} (reached : Reached engine node)
      (completed : Completed (engine.call depth call node).1) :
      Reached engine (engine.call depth call node).2

/-- Objects are deleted one after the other, each as an object of the kind that it is. -/
inductive Engine.Deletes (engine : Engine) (depth : Nat) (payload : String → ObjectKey → RawJson) :
    Node → List ObjectKey → Node → Prop where
  | nil (node : Node) : Deletes engine depth payload node [] node
  | cons {node mid last : Node} {key : ObjectKey} {keys : List ObjectKey} {record : Record}
      {output : RawJson} (stored : node.store.record? key = some record)
      (deleted : engine.call depth (key.deletion record.kind (payload record.kind key)) node =
        (.ok { payload := some output }, mid))
      (rest : Deletes engine depth payload mid keys last) :
      Deletes engine depth payload node (key :: keys) last

/-- What is true of a node between the calls. -/
structure AtRest (engine : Engine) (node : Node) : Prop where
  proper : Proper engine node
  owned : node.store.Owned fun _ => False
  acyclic : node.Traced AcyclicAt
  free : node.guards.holds = []

section Delete

variable {engine : Engine} {resource : Resource} {depth : Nat} {key : ObjectKey} {request : Request}
  {action : Action} {node : Node}

theorem Resource.Handles.idle {outcome : Except (Halt ActionError) RawJson} {done : Node}
    (handles : resource.Handles (engine.run depth) key request action node outcome done)
    (idle : (action.handler key request.payload).Idle engine) (calm : node.faults.Calm) :
    (∃ output, outcome = .ok output) ∧ done.store = node.store ∧ done.guards = node.guards ∧
      done.faults.Calm := by
  obtain ⟨⟨mid, passed, ran⟩, -, -⟩ := handles
  have start : (mid.marked (.began (resource.handlerFrame key request action))).faults.Calm :=
    passed.calm_iff.mpr calm
  obtain ⟨value, asked⟩ := (idle depth _ start).of_eq ran
  exact ⟨value, asked.store.trans passed.store, asked.guards.trans passed.guards,
    asked.calm_iff.mpr start⟩

/-- A delete that is accepted removes the record, if its handler does not get in the way. -/
theorem Resource.Concludes.removes {result : Except (Halt EngineError) Response} {last : Node}
    (course : resource.Concludes (engine.run depth) key request action node result last)
    (deleting : request.action = deleteAction)
    (accepts : resource.Accepts request.action action.flags key node.store)
    (found : node.store.hasRecord key = true)
    (idle : (action.handler key request.payload).Idle engine) (calm : node.faults.Calm) :
    (∃ output, result = .ok { payload := some output }) ∧
      last.store = node.store.after (.remove key) ∧ last.guards = node.guards := by
  cases course with
  | refused _ why => exact absurd accepts (why calm).not_accepts
  | halted handles stopped =>
      obtain ⟨⟨output, rfl⟩, -⟩ := handles.idle idle calm
      cases stopped
  | succeeded _ other => exact absurd deleting other
  | deleted handles _ removed =>
      obtain ⟨-, store, guards, -⟩ := handles.idle idle calm
      refine ⟨⟨_, rfl⟩, ?_, removed.guards.trans guards⟩
      rw [removed.store, ← store]
      rfl
  | undeleted handles _ course =>
      obtain ⟨-, store, -, still⟩ := handles.idle idle calm
      obtain ⟨wrong, -⟩ | ⟨missing, -⟩ := course
      · exact absurd still wrong
      · rw [store, found] at missing
        cases missing
  | failed handles | gaveUp handles | stuck handles =>
      obtain ⟨⟨output, same⟩, -⟩ := handles.idle idle calm
      cases same

/-- The same from the outside: when no lock is held, the delete need not wait. -/
theorem Resource.ends_delete (shared : resource.guards = .shared)
    (described : resource.action? request.action = some action)
    (deleting : request.action = deleteAction)
    (accepts : resource.Accepts request.action action.flags key node.store)
    (found : node.store.hasRecord key = true)
    (idle : (action.handler key request.payload).Idle engine) (calm : node.faults.Calm)
    (sound : node.guards.Sound) (free : node.guards.holds = []) :
    (resource.dispatch (engine.run depth) key request).Ends node fun result after =>
      (∃ output, result = .ok { payload := some output }) ∧
        after.store = node.store.after (.remove key) := by
  rw [Resource.dispatch_eq, described, shared]
  dsimp only
  rw [ends_within]
  refine Ends.guarded sound (fun waits => ?_) fun hold held taken => ?_
  · have gets : (node.guards.take? key.text action.flags.mode).isSome = true :=
      GuardTable.take?_isSome_of_free sound free
    rw [show node.guards.take? key.text action.flags.mode = none from waits] at gets
    cases gets
  · refine Resource.concludes_holdDispatch.imp fun result last course => ?_
    obtain ⟨value, store, guards⟩ := course.removes deleting accepts found idle calm
    rw [show last.table .shared = held from guards]
    exact ⟨.refl held, GuardTable.Sound.take? taken sound, fun left _ _ => ⟨value, store⟩⟩

end Delete

namespace AtRest

variable {engine : Engine} {payload : String → ObjectKey → RawJson} {node after : Node}
  {key : ObjectKey} {record : Record}

theorem empty (engine : Engine) : AtRest engine .empty where
  proper := ⟨FaultPlan.calm_none, GuardTable.sound_empty, fun _ _ found => nomatch found⟩
  owned _ _ edge := absurd edge MemoryStore.not_relies_empty
  acyclic := traced_start .none MemoryStore.acyclic_empty
  free := rfl

theorem paired (rests : AtRest engine node) : node.store.Paired := rests.acyclic.paired

theorem hasRecord (rests : AtRest engine node) {master slave : ObjectKey}
    (edge : node.store.Relies master slave) : node.store.hasRecord master = true :=
  (rests.owned master slave edge).resolve_right id

theorem call (rests : AtRest engine node) (tidy : engine.Tidy) {depth : Nat} {call : Call}
    {result : Except (Halt EngineError) Response} (ran : engine.call depth call node = (result, after))
    (completed : Completed result) : AtRest engine after := by
  have stays := (KeepsOwned.call tidy depth _ call node).of_eq ran completed rests.proper rests.owned
  have keeps : Keeps KeepsAcyclic (engine.call depth call) :=
    (KeepsAcyclic.additive.upheld fun _ _ _ may => may.not_link).call (fun _ _ => trivial)
      tidy.confined depth .caller call
  exact ⟨stays.proper, stays.owned, keeps.of_eq ran rests.acyclic,
    stays.guards.holds.trans rests.free⟩

theorem exists_unused (rests : AtRest engine node) (some' : node.store.isEmpty = false) :
    ∃ first record, node.store.record? first = some record ∧
      ∀ master, ¬node.store.Relies master first := by
  have acyclic : node.store.Acyclic := rests.acyclic.store ▸ rests.acyclic.now
  obtain ⟨key, found⟩ := MemoryStore.isEmpty_eq_false_iff.mp some'
  obtain ⟨first, stored, unused⟩ := acyclic.exists_unused found
  obtain ⟨record, same⟩ := MemoryStore.hasRecord_iff.mp stored
  exact ⟨first, record, same, fun master edge => unused master (rests.hasRecord edge) edge⟩

theorem delete (rests : AtRest engine node) (drainable : engine.Drainable payload) (depth : Nat)
    (stored : node.store.record? key = some record)
    (unused : ∀ master, ¬node.store.Relies master key) :
    ∃ output after, engine.call (depth + 1) (key.deletion record.kind (payload record.kind key)) node =
      (.ok { payload := some output }, after) ∧ after.store = node.store.after (.remove key) := by
  obtain ⟨resource, found⟩ := Option.isSome_iff_exists.mp (rests.proper.known key record stored)
  obtain ⟨member, named⟩ := Engine.mem_of_resource? found
  obtain ⟨action, described, idle⟩ := drainable.deletes resource member
  have flags : action.flags = .exclusive := drainable.built.deleteFlags member described
  have present := MemoryStore.hasRecord_iff.mpr ⟨record, stored⟩
  have accepts : resource.Accepts Resource.deleteAction action.flags key node.store := by
    refine ⟨⟨?_, fun other same => ?_⟩, fun _ => rests.paired.mastersOf_eq_nil_iff.mpr unused⟩
    · rw [present, flags]
      rfl
    · rw [stored] at same
      cases same
      exact named.symm
  have ends : (engine.call (depth + 1) (key.deletion record.kind (payload record.kind key))).Ends node
      fun result after => (∃ output, result = .ok { payload := some output }) ∧
        after.store = node.store.after (.remove key) := by
    simp only [Engine.call, ObjectKey.deletion, found]
    exact Resource.ends_delete (drainable.built.guards member) described rfl accepts present
      (named ▸ idle key) rests.proper.calm rests.proper.sound rests.free
  obtain ⟨⟨output, same⟩, removed⟩ := ends
  exact ⟨output, _, Prod.ext same rfl, removed⟩

/-- All that is stored can be deleted, one after the other. -/
theorem drains (rests : AtRest engine node) (drainable : engine.Drainable payload) (depth : Nat) :
    ∃ keys last, engine.Deletes (depth + 1) payload node keys last ∧ keys.Nodup ∧
      (∀ key, key ∈ keys ↔ node.store.hasRecord key = true) ∧
      last.store.isEmpty = true ∧ ∀ master slave, ¬last.store.Relies master slave := by
  -- Each delete leaves a node at rest with fewer records, so the rest is drained likewise.
  induction size : node.store.size using Nat.strong_induction_on generalizing node with
  | h count ih =>
      cases empty : node.store.isEmpty with
      | true =>
          have missing := MemoryStore.isEmpty_iff.mp empty
          refine ⟨[], node, .nil node, .nil, fun key => ?_, empty, fun master slave edge => ?_⟩
          · simp [missing key]
          · simpa [missing master] using rests.hasRecord edge
      | false =>
          obtain ⟨first, record, stored, unused⟩ := rests.exists_unused empty
          obtain ⟨output, mid, ran, removed⟩ := rests.delete drainable depth stored unused
          have present := MemoryStore.hasRecord_iff.mpr ⟨record, stored⟩
          have smaller : mid.store.size < count := by
            rw [removed, ← size]
            exact MemoryStore.size_after_remove present
          have later : ∀ other, mid.store.hasRecord other = true ↔
              other ≠ first ∧ node.store.hasRecord other = true := by
            intro other
            rw [removed, MemoryStore.hasRecord_after_remove]
          obtain ⟨keys, last, deletes, once, all, emptied, edgeless⟩ :=
            ih _ smaller (rests.call drainable.toTidy ran trivial) rfl
          refine ⟨first :: keys, last, .cons stored ran deletes, ?_, fun other => ?_, emptied, edgeless⟩
          · exact List.nodup_cons.mpr ⟨fun again => ((later first).mp ((all first).mp again)).1 rfl, once⟩
          · rw [List.mem_cons, all, later]
            by_cases same : other = first <;> simp [same, present]

end AtRest

theorem Engine.Reached.rests {engine : Engine} {node : Node} (reached : engine.Reached node)
    (tidy : engine.Tidy) : AtRest engine node := by
  induction reached with
  | start => exact .empty engine
  | call _ completed ih => exact ih.call tidy rfl completed

/-- Whatever calls have been made, completed as they may be: every master of an edge has a record; if
    anything is stored, something is stored that a call deletes; and all that is stored can be deleted in
    some order, which leaves neither records nor edges. -/
theorem reached_drains {engine : Engine} {payload : String → ObjectKey → RawJson} {node : Node}
    (drainable : engine.Drainable payload) (reached : engine.Reached node) (depth : Nat) :
    (∀ master slave, node.store.Relies master slave → node.store.hasRecord master = true) ∧
    (node.store.isEmpty = false → ∃ key record output after, node.store.record? key = some record ∧
      engine.call (depth + 1) (key.deletion record.kind (payload record.kind key)) node =
        (.ok { payload := some output }, after)) ∧
    ∃ keys last, engine.Deletes (depth + 1) payload node keys last ∧ keys.Nodup ∧
      (∀ key, key ∈ keys ↔ node.store.hasRecord key = true) ∧
      last.store.isEmpty = true ∧ last.store.edges = [] := by
  have rests := reached.rests drainable.toTidy
  obtain ⟨keys, last, deletes, once, all, emptied, edgeless⟩ := rests.drains drainable depth
  refine ⟨fun _ _ => rests.hasRecord, fun some' => ?_, keys, last, deletes, once, all, emptied, ?_⟩
  · obtain ⟨key, record, stored, unused⟩ := rests.exists_unused some'
    obtain ⟨output, after, ran, -⟩ := rests.delete drainable depth stored unused
    exact ⟨key, record, output, after, stored, ran⟩
  · exact List.eq_nil_iff_forall_not_mem.mpr fun edge => edgeless edge.1 edge.2

namespace Small

/-- Creating reserves a disk, and stores a record once that is granted. -/
def occupy : Handler := fun key _ =>
  .depend .add key (object "a") (.done (.ok .null)) <| .orFail id fun _ =>
    .store (.write key ⟨"vm", []⟩) <| .orFail (.engine ∘ .store) fun _ => .done (.ok .null)

def occupying : Resource where
  name := "vm"
  flags := .exclusive
  actions := [("create", ⟨occupy, .create⟩), (Resource.deleteAction, ⟨delete, .exclusive⟩)]

theorem occupying_built : occupying.Built := by
  have first : ({ name := "vm", flags := .exclusive } : Resource).withAction "create" occupy .create =
      .ok { name := "vm", flags := .exclusive, actions := [("create", ⟨occupy, .create⟩)] } := rfl
  exact .withDelete (.withAction (.new "vm" .exclusive) first) rfl

/-- Disks, networks, and machines that reserve a disk. -/
def hosting : Engine where
  resources := engine.resources ++ [{ occupying with guards := .shared }]

theorem hosting_built : hosting.Built := .withResource engine_built occupying_built rfl

theorem ends_write {ε : Type} {key : ObjectKey} {record : Record} {node : Node} :
    (ask (.write key record) : Run ε _).Ends node fun result after => ∃ answer, result = .ok answer ∧
      (after.store.hasRecord key = true ∨ ¬node.faults.Calm ∧ ∃ cause, answer = .error cause) := by
  refine ends_ask (fun fault after planned _ => ⟨_, rfl, .inr ⟨FaultPlan.not_calm planned, ?_⟩⟩)
    fun after done => ⟨_, rfl, .inl ?_⟩
  · cases fault <;> exact ⟨_, rfl⟩
  · rw [done.store, MemoryStore.hasRecord_iff, MemoryStore.record?_after]
    simp

theorem create_stores (kind : String) (key : ObjectKey) (payload : RawJson) :
    (create kind key payload).Stores hosting key := by
  intro depth node done output calm _ _ _ ran
  obtain ⟨answer, mid, wrote, rest⟩ := bind_eq_ok ran
  obtain ⟨answer', same, found | ⟨wrong, -⟩⟩ := ends_write.of_eq wrote
  · cases rest
    exact found
  · exact absurd calm wrong

theorem occupy_stores (key : ObjectKey) (payload : RawJson) : (occupy key payload).Stores hosting key := by
  intro depth node done output _ _ _ _ ran
  obtain ⟨granted, mid, -, rest⟩ := bind_eq_ok ran
  cases granted with
  | error error => cases rest
  | ok value =>
      obtain ⟨answer, last, wrote, rest⟩ := bind_eq_ok rest
      obtain ⟨answer', same, found | ⟨-, cause, failed⟩⟩ := ends_write.of_eq wrote
      · cases answer with
        | ok =>
            cases rest
            exact found
        | error => cases rest
      · cases same
        cases failed
        cases rest

theorem hosting_actions {resource : Resource} (member : resource ∈ hosting.resources) :
    ∃ handler : Handler, resource.actions =
        [("create", ⟨handler, .create⟩), (Resource.deleteAction, ⟨delete, .exclusive⟩)] ∧
      ∀ key payload, (handler key payload).Confined (OwnObject (.handler resource.name key)) ∧
        (handler key payload).Stores hosting key := by
  have writes : ∀ kind key, OwnObject (.handler kind key) (.store (.write key ⟨kind, []⟩)) :=
    fun _ _ => .inr ⟨_, rfl⟩
  simp only [hosting, engine, List.map_cons, List.map_nil, List.cons_append, List.nil_append,
    List.mem_cons, List.not_mem_nil, or_false] at member
  rcases member with rfl | rfl | rfl
  · exact ⟨create "disk", rfl, fun key payload =>
      ⟨⟨writes _ _, fun _ => trivial⟩, create_stores "disk" key payload⟩⟩
  · exact ⟨create "network", rfl, fun key payload =>
      ⟨⟨writes _ _, fun _ => trivial⟩, create_stores "network" key payload⟩⟩
  · refine ⟨occupy, rfl, fun key payload => ⟨⟨rfl, trivial, fun granted => ?_⟩, occupy_stores key payload⟩⟩
    cases granted with
    | error => exact trivial
    | ok =>
        refine ⟨writes _ _, fun answer => ?_⟩
        cases answer <;> exact trivial

theorem hosting_drainable : hosting.Drainable fun _ _ => .null where
  built := hosting_built
  confined resource member name action described key payload := by
    obtain ⟨handler, actions, good⟩ := hosting_actions member
    have listed := Resource.mem_of_action? described
    simp only [actions, List.mem_cons, Prod.mk.injEq, List.not_mem_nil, or_false] at listed
    rcases listed with ⟨-, rfl⟩ | ⟨-, rfl⟩
    · exact (good key payload).1
    · exact trivial
  stores resource member name action described creates key payload := by
    obtain ⟨handler, actions, good⟩ := hosting_actions member
    have listed := Resource.mem_of_action? described
    simp only [actions, List.mem_cons, Prod.mk.injEq, List.not_mem_nil, or_false] at listed
    rcases listed with ⟨-, rfl⟩ | ⟨-, rfl⟩
    · exact (good key payload).2
    · cases creates
  deletes resource member := by
    obtain ⟨handler, actions, -⟩ := hosting_actions member
    refine ⟨⟨delete, .exclusive⟩, ?_, fun key depth node _ => ⟨⟨.null, rfl⟩, .refl node⟩⟩
    rw [Resource.action?, actions]
    rfl

/-- The call that creates an object. -/
def creation (kind name : String) : Call := ⟨1, "space", kind, { action := "create", object := name }⟩

/-- A machine has been created on a disk. -/
def hosted : Node :=
  (hosting.call 1 (creation "vm" "vm") (hosting.call 1 (creation "disk" "a") .empty).2).2

theorem hosted_reached : hosting.Reached hosted := by
  have disk : (hosting.call 1 (creation "disk" "a") .empty).1 = .ok { payload := some .null } := by
    decide +kernel
  have machine : (hosting.call 1 (creation "vm" "vm") (hosting.call 1 (creation "disk" "a") .empty).2).1 =
      .ok { payload := some .null } := by decide +kernel
  refine .call (.call .start ?_) ?_
  · rw [disk]
    trivial
  · rw [machine]
    trivial

end Small

/-- The machine is deleted first, then its disk. -/
theorem reached_drains_hosted :
    (Small.hosting.Drainable (fun _ _ => .null) ∧ Small.hosting.Reached Small.hosted) ∧
    Small.hosted.store.edges = [(Small.object "vm", Small.object "a")] ∧
    ∃ keys last, Small.hosting.Deletes 1 (fun _ _ => .null) Small.hosted keys last ∧ keys.Nodup ∧
      (∀ key, key ∈ keys ↔ Small.hosted.store.hasRecord key = true) ∧
      last.store.isEmpty = true ∧ last.store.edges = [] :=
  ⟨⟨Small.hosting_drainable, Small.hosted_reached⟩, by decide +kernel,
    (reached_drains Small.hosting_drainable Small.hosted_reached 0).2.2⟩

end Provision
