import Provision.Proofs.Dependency.AllOrNothing
import Provision.Proofs.Run.Twin
import Provision.Workload

/-! # Calls for independent objects commute

A handler that keeps to its own object reads and changes what is stored for this object only. The dispatch around it
adds that the edges from the object may be taken away, whatever they lead to. So another object that no such edge
joins with this one is found as it was, and its own call goes as if the first had not been made.
-/

namespace Provision

open Run Node

/-! ## What is stored for one object -/

namespace MemoryStore

/-- Nothing has changed but what is stored for one object. Edges from it may be gone, and none to another object is
    new. -/
structure ChangedOnlyAt (key : ObjectKey) (store other : MemoryStore) : Prop where
  records : ∀ object, object ≠ key → other.record? object = store.record? object
  edges : ∀ master slave, master ≠ key → (other.Relies master slave ↔ store.Relies master slave)
  fewer : ∀ slave, slave ≠ key → other.Relies key slave → store.Relies key slave

variable {key object : ObjectKey} {store other last : MemoryStore} {call : StoreCall}

namespace ChangedOnlyAt

theorem refl (key : ObjectKey) (store : MemoryStore) : store.ChangedOnlyAt key store :=
  ⟨fun _ _ => rfl, fun _ _ _ => Iff.rfl, fun _ _ => id⟩

theorem trans (first : store.ChangedOnlyAt key other) (second : other.ChangedOnlyAt key last) :
    store.ChangedOnlyAt key last where
  records object apart := (second.records object apart).trans (first.records object apart)
  edges master slave apart := (second.edges master slave apart).trans (first.edges master slave apart)
  fewer slave apart edge := first.fewer slave apart (second.fewer slave apart edge)

theorem of_after (within : call.Within (· = key)) : store.ChangedOnlyAt key (store.after call) := by
  refine ⟨fun object apart => ?_, fun master slave apart => ?_, fun slave apart edge => ?_⟩
  · rw [record?_after]
    cases call with
    | write a | remove a => exact if_neg fun same => apart (same.symm.trans within)
    | get | has | link | unlink | release | masters => rfl
  · rw [relies_after]
    cases call with
    | link a b => exact or_iff_right fun both => apart (both.1.trans within.1)
    | unlink a b => exact and_iff_left fun both => apart (both.1.trans within.1)
    | release a => exact and_iff_left fun same => apart (same.trans within)
    | remove a => exact and_iff_left fun both => apart (both.1.trans within)
    | get | has | write | masters => exact Iff.rfl
  · rw [relies_after] at edge
    cases call with
    | link a b => exact edge.resolve_left fun both => apart (both.2.trans within.2)
    | unlink | release | remove => exact edge.1
    | get | has | write | masters => exact edge

/-- What is stored for another object is as it was, if no edge has joined the two. -/
theorem agreesAt (changed : store.ChangedOnlyAt key other) (apart : object ≠ key) (free : ¬store.Relies key object) :
    store.AgreesAt (· = object) other := by
  refine ⟨?_, fun master slave joined => ?_⟩
  · rintro _ rfl
    exact changed.records _ apart
  · by_cases own : master = key
    · subst own
      obtain rfl := joined.resolve_left (Ne.symm apart)
      exact iff_of_false (fun edge => free (changed.fewer slave apart edge)) free
    · exact changed.edges master slave own

end ChangedOnlyAt

/-- Two objects are changed, in one order and in the other. Both orders leave the same, if what is done to each object
    in the second place is what is done to it in the first. -/
theorem ChangedOnlyAt.agrees {start first second last last' : MemoryStore} {key key' : ObjectKey} (apart : key ≠ key')
    (begun : start.ChangedOnlyAt key first) (begun' : start.ChangedOnlyAt key' second)
    (ended : first.ChangedOnlyAt key' last) (ended' : second.ChangedOnlyAt key last')
    (same : first.AgreesAt (· = key) last') (same' : second.AgreesAt (· = key') last) : last.Agrees last' := by
  refine ⟨Std.ExtTreeMap.ext_getElem? fun object => ?_, fun master slave => ?_⟩
  · change last'.record? object = last.record? object
    by_cases own : object = key
    · subst own
      rw [same.records _ rfl, ended.records _ apart]
    · by_cases own' : object = key'
      · subst own'
        rw [same'.records _ rfl, ended'.records _ own]
      · rw [ended'.records _ own, begun'.records _ own', ended.records _ own', begun.records _ own]
  · by_cases own : master = key
    · subst own
      rw [same.edges _ _ (.inl rfl), ended.edges _ _ apart]
    · by_cases own' : master = key'
      · subst own'
        rw [same'.edges _ _ (.inl rfl), ended'.edges _ _ own]
      · rw [ended'.edges _ _ own, begun'.edges _ _ own', ended.edges _ _ own', begun.edges _ _ own]

end MemoryStore

/-! ## Calls that keep to their own object -/

/-- A handler keeps to an object: it asks the store about this object, or changes what is stored for it, and does
    nothing else that is seen outside. -/
def Deed.Own (key : ObjectKey) : Deed → Prop
  | .store query => query.Within (· = key)
  | .call _ | .depend .. => False

/-- The handler that a call gets to, if it gets to one, keeps to the object of the call. -/
def Engine.KeepsToOwn (engine : Engine) (call : Call) : Prop :=
  ∀ resource action, engine.resource? call.kind = some resource →
    resource.action? call.request.action = some action →
    (action.handler call.key call.request.payload).Confined (Deed.Own call.key)

/-- Reading the state of the own object is keeping to it. -/
theorem Workload.confined_current (workload : Workload) {key : ObjectKey}
    {next : Except EngineError Json.Value → Program} (rest : ∀ read, (next read).Confined (Deed.Own key)) :
    (workload.current key next).Confined (Deed.Own key) := by
  refine ⟨rfl, fun present => ?_⟩
  rcases present with cause | (_ | _)
  · exact rest _
  · exact rest _
  · refine ⟨rfl, fun found => ?_⟩
    cases found with
    | error cause => exact rest _
    | ok record =>
        dsimp only
        split <;> exact rest _

/-- And so is storing it. -/
theorem Workload.confined_save (workload : Workload) {key : ObjectKey} {state : Json.Value}
    {next : Except EngineError Unit → Program} (rest : ∀ saved, (next saved).Confined (Deed.Own key)) :
    (workload.save key state next).Confined (Deed.Own key) := by
  rw [Workload.save]
  split
  · exact ⟨rfl, fun _ => rest _⟩
  · exact rest _

variable {engine : Engine} {call : Call}

theorem Run.Serving.call_own {K : ∀ {ε α : Type}, Run ε α → Prop} (serving : Serving (· = call.key) K)
    (built : engine.Built) (own : engine.KeepsToOwn call) (depth : Nat) : K (engine.call depth call) := by
  cases depth with
  | zero => exact serving.tooDeep
  | succ depth =>
      rw [Engine.call]
      split
      next => exact serving.fail _
      next resource registered =>
        have member := (Engine.mem_of_resource? registered).1
        refine serving.dispatch (built.guards member) rfl fun action described => ?_
        exact serving.toComposed.program_run serving.panicking (fun _ => serving.mark _ trivial) serving.look
          serving.ask (fun _ may => may.elim) (fun _ _ _ may => may.elim) (fun _ _ _ may => may.elim)
          (own resource action registered described)

/-! ## One call leaves the other objects alone -/

/-- Nothing is stored or taken away for another object, no call of the store is planned to fail that was not, and each
    edge is found from both its ends if it was. -/
structure Node.ChangedOnlyAt (key : ObjectKey) (node after : Node) : Prop where
  store : node.store.ChangedOnlyAt key after.store
  paired : node.store.Paired → after.store.Paired
  schedule : after.faults.schedule = node.faults.schedule

namespace Node.ChangedOnlyAt

variable {key : ObjectKey} {node after : Node} {order : StoreCall}

theorem of_store (store : after.store = node.store) (schedule : after.faults.schedule = node.faults.schedule) :
    ChangedOnlyAt key node after :=
  ⟨store ▸ .refl key _, fun paired => store ▸ paired, schedule⟩

theorem performed (within : order.Within (· = key)) (done : Performed order node after) :
    ChangedOnlyAt key node after :=
  ⟨done.store ▸ .of_after within, fun paired => done.store ▸ paired.after order, done.schedule⟩

theorem lockless : Lockless (fun _ => True) (ChangedOnlyAt key) where
  refl _ := of_store rfl rfl
  trans _ _ _ first second :=
    ⟨first.store.trans second.store, fun paired => second.paired (first.paired paired),
      second.schedule.trans first.schedule⟩
  consulted asked := of_store asked.store asked.schedule
  began _ _ _ := of_store rfl rfl
  ended _ _ _ := of_store rfl rfl
  table _ _ _ := of_store store_withTable (by rw [faults_withTable])

end Node.ChangedOnlyAt

/-! ## One call does not see the other -/

/-- Two nodes on which the same is stored for one object, and locks look alike. No call of the store fails on them. -/
structure Node.AgreesAt (key : ObjectKey) (a b : Node) : Prop where
  paired : a.store.Paired
  paired' : b.store.Paired
  calm : a.faults.Calm
  calm' : b.faults.Calm
  agrees : a.store.AgreesAt (· = key) b.store
  alike : a.guards.Alike b.guards

namespace Node.AgreesAt

variable {key : ObjectKey}

theorem lockstep : Lockstep (AgreesAt key) where
  marked _ both := ⟨both.paired, both.paired', both.calm, both.calm', both.agrees, both.alike⟩
  alike both := both.alike
  withTable both alike := ⟨both.paired, both.paired', both.calm, both.calm', both.agrees, alike⟩

theorem twin_ask {ε : Type} (query : StoreCall) (within : query.Within (· = key)) :
    Twin (AgreesAt key) (ask query : Run ε _) := by
  intro a b both
  rw [Together, ask_of_calm both.calm, ask_of_calm both.calm']
  refine ⟨congrArg Except.ok (both.agrees.answer within both.paired both.paired'), ?_⟩
  exact ⟨both.paired.after query, both.paired'.after query, both.calm, both.calm', both.agrees.after within,
    both.alike⟩

theorem coupled_call (built : engine.Built) (own : engine.KeepsToOwn call) (depth : Nat) :
    Coupled (AgreesAt call.key) (engine.call depth call) :=
  (lockstep.serving twin_ask).call_own built own depth

end Node.AgreesAt

/-- A node between calls: the ledger is found from both ends, no call of the store is planned to fail, and the locks
    are in order. -/
structure Node.Quiet (node : Node) : Prop where
  paired : node.store.Paired
  calm : node.faults.Calm
  sound : node.guards.Sound

section Alone

variable {node : Node} (built : engine.Built) (own : engine.KeepsToOwn call) (depth : Nat)

include built own

theorem changedOnlyAt_call (node : Node) : node.ChangedOnlyAt call.key (engine.call depth call node).2 :=
  have running := ChangedOnlyAt.lockless.running fun within => ChangedOnlyAt.performed within
  running.toServing.call_own built own depth node

/-- An object that no edge joins with that of a call is after the call as it was. -/
theorem agreesAt_call (quiet : node.Quiet) {key : ObjectKey} (apart : key ≠ call.key)
    (free : ¬node.store.Relies call.key key) : AgreesAt key node (engine.call depth call node).2 := by
  have changed := changedOnlyAt_call built own depth node
  obtain ⟨sound, agrees⟩ := GivesBack.call built depth call node quiet.sound
  refine ⟨quiet.paired, changed.paired quiet.paired, quiet.calm, fun operation n => ?_,
    changed.store.agreesAt apart free, ?_⟩
  · rw [changed.schedule]
    exact quiet.calm operation n
  · exact (GuardTable.Alike.refl quiet.sound).agrees (.refl _) quiet.sound agrees sound

end Alone

/-- Two calls for different objects, of which none relies on the other, commute if their handlers keep to the objects
    of the calls: in both orders each call gives the same result, whatever it is, and the same records and edges are
    left. -/
theorem independent_calls_commute {engine : Engine} (built : engine.Built) {node : Node} (quiet : node.Quiet)
    {call other : Call} (apart : call.key ≠ other.key) (free : ¬node.store.Relies call.key other.key)
    (free' : ¬node.store.Relies other.key call.key) (own : engine.KeepsToOwn call) (own' : engine.KeepsToOwn other)
    (depth depth' : Nat) :
    (engine.call depth call (engine.call depth' other node).2).1 = (engine.call depth call node).1 ∧
    (engine.call depth' other (engine.call depth call node).2).1 = (engine.call depth' other node).1 ∧
    (engine.call depth' other (engine.call depth call node).2).2.store.Agrees
      (engine.call depth call (engine.call depth' other node).2).2.store := by
  have both := agreesAt_call built own' depth' quiet apart free'
  have both' := agreesAt_call built own depth quiet apart.symm free
  obtain ⟨same, last⟩ := (AgreesAt.coupled_call built own depth).twin _ _ both
  obtain ⟨same', last'⟩ := (AgreesAt.coupled_call built own' depth').twin _ _ both'
  have changed := fun node => (changedOnlyAt_call built own depth node).store
  have changed' := fun node => (changedOnlyAt_call built own' depth' node).store
  refine ⟨same, same', ?_⟩
  exact MemoryStore.ChangedOnlyAt.agrees apart (changed node) (changed' node) (changed' _) (changed _) last.agrees
    last'.agrees

namespace Small

/-- Cells keep a state of any type. -/
def cells : Workload where
  kind := "cell"
  form := .plain .any

/-- Fails. -/
def refuse : Handler := fun _ _ => .done (.error (.failed "no capacity"))

/-- Reads the state, and does nothing else. -/
def inspectCell : Handler := fun key _ => cells.current key fun _ => .done (.ok .null)

def cell : Resource where
  name := "cell"
  flags := .shareable
  actions := [("create", ⟨refuse, .create⟩), (Resource.deleteAction, ⟨inspectCell, .exclusive⟩)]

def cellEngine : Engine where
  resources := [{ cell with guards := .shared }]

theorem cellEngine_built : cellEngine.Built := by
  have first : ({ name := "cell", flags := .shareable } : Resource).withAction "create" refuse .create =
      .ok { cell with actions := [("create", ⟨refuse, .create⟩)] } := rfl
  exact .withResource .empty (.withDelete (.withAction (.new "cell" .shareable) first) rfl) rfl

theorem inspectCell_own (key : ObjectKey) (payload : RawJson) : (inspectCell key payload).Confined (Deed.Own key) := by
  rw [inspectCell]
  exact cells.confined_current fun _ => trivial

theorem cellEngine_keepsToOwn (call : Call) : cellEngine.KeepsToOwn call := by
  intro resource action registered described
  have member := (Engine.mem_of_resource? registered).1
  obtain rfl := List.mem_singleton.mp member
  have listed := Resource.mem_of_action? described
  simp only [cell, List.mem_cons, Prod.mk.injEq, List.not_mem_nil, or_false] at listed
  rcases listed with ⟨-, rfl⟩ | ⟨-, rfl⟩
  · exact trivial
  · exact inspectCell_own call.key call.request.payload

/-- One cell is there and relies on a third object, on which another relies that is still to be created. -/
def celled : Node where
  store := ((MemoryStore.empty.write (object "a") ⟨"cell", Text.bytes "1"⟩).link (object "a") (object "n")).link
    (object "b") (object "n")

theorem celled_quiet : celled.Quiet where
  paired := ((MemoryStore.paired_empty.after (.write _ _)).after (.link _ _)).after (.link _ _)
  calm := FaultPlan.calm_none
  sound := GuardTable.sound_empty

def cellCall (action name : String) : Call := ⟨1, "space", "cell", { action, object := name }⟩

end Small

/-- The deletion of one cell and the creation of the other, which fails: in both orders no edge is left. -/
theorem independent_calls_commute_cells :
    let deletion := Small.cellCall "delete" "a"
    let creation := Small.cellCall "create" "b"
    (Small.cellEngine.Built ∧ Small.celled.Quiet ∧ deletion.key ≠ creation.key ∧
      ¬Small.celled.store.Relies deletion.key creation.key ∧
      ¬Small.celled.store.Relies creation.key deletion.key ∧
      Small.cellEngine.KeepsToOwn deletion ∧ Small.cellEngine.KeepsToOwn creation) ∧
    (Small.cellEngine.call 1 deletion (Small.cellEngine.call 1 creation Small.celled).2).1 =
      .ok { payload := some .null } ∧
    (Small.cellEngine.call 1 creation (Small.cellEngine.call 1 deletion Small.celled).2).1 =
      .ok { error := "no capacity" } ∧
    ∀ master slave, ¬(Small.cellEngine.call 1 deletion
      (Small.cellEngine.call 1 creation Small.celled).2).2.store.Relies master slave := by
  intro deletion creation
  have apart : deletion.key ≠ creation.key := by decide
  have free : ¬Small.celled.store.Relies deletion.key creation.key := by decide +kernel
  have free' : ¬Small.celled.store.Relies creation.key deletion.key := by decide +kernel
  have own := Small.cellEngine_keepsToOwn deletion
  have own' := Small.cellEngine_keepsToOwn creation
  obtain ⟨same, same', agrees⟩ :=
    independent_calls_commute Small.cellEngine_built Small.celled_quiet apart free free' own own' 1 1
  have deleted : (Small.cellEngine.call 1 deletion Small.celled).1 = .ok { payload := some .null } := by
    decide +kernel
  have refused : (Small.cellEngine.call 1 creation Small.celled).1 = .ok { error := "no capacity" } := by
    decide +kernel
  have bare : (Small.cellEngine.call 1 creation
      (Small.cellEngine.call 1 deletion Small.celled).2).2.store.edges = [] := by decide +kernel
  refine ⟨⟨Small.cellEngine_built, Small.celled_quiet, apart, free, free', own, own'⟩, same.trans deleted,
    same'.trans refused, fun master slave edge => ?_⟩
  have listed := (agrees.edges master slave).mp edge
  rw [MemoryStore.Relies, bare] at listed
  cases listed

end Provision
