import Provision.Workload
import Provision.Proofs.Run.Twin

/-! # Reading and writing of states

While no call to the store goes wrong, what a workload stores for an object is one record, and what it is
answered about the state of an object is settled by the record of that object alone.
-/

namespace Provision

open Run Node

theorem Engine.run_store {engine : Engine} {depth : Nat} {call : StoreCall}
    {next : Except StoreError call.Answer → Program} {node : Node} (calm : node.faults.Calm) :
    engine.run depth (.store call next) node =
      engine.run depth (next (node.store.answer call).1) (node.answered call) :=
  bind_of_ok (ask_of_calm calm call)

namespace Workload

/-- What a workload is answered about the state of an object. -/
def reading (workload : Workload) (key : ObjectKey) (store : MemoryStore) : Except EngineError Json.Value :=
  match store.record? key with
  | none => .error (.objectDoesNotExist key)
  | some record =>
    if record.kind = workload.kind then
      (workload.form.decodeText record.data).mapError (.decode key record.kind ·)
    else .error (.objectInvalidType key workload.kind record.kind)

variable {workload : Workload} {key : ObjectKey} {node : Node}

/-- A state is stored as the one record of its object, and whoever stores it goes on. -/
theorem run_save (workload : Workload) (encodable : workload.encodable = true) (calm : node.faults.Calm)
    (key : ObjectKey) (state : Json.Value) :
    ∃ after, after.store = node.store.write key ⟨workload.kind, state.print⟩ ∧ after.faults.Calm ∧
      ∀ (engine : Engine) depth next, engine.run depth (workload.save key state next) node =
        engine.run depth (next (.ok ())) after := by
  refine ⟨node.answered (.write key ⟨workload.kind, state.print⟩), rfl, calm, fun engine depth next => ?_⟩
  rw [save, if_pos encodable, Engine.run_store calm]
  rfl

/-- Whoever reads a state goes on with the reading, and has changed nothing. -/
theorem run_current (workload : Workload) (calm : node.faults.Calm) (key : ObjectKey) :
    ∃ after, after.store = node.store ∧ after.faults.Calm ∧
      ∀ (engine : Engine) depth next, engine.run depth (workload.current key next) node =
        engine.run depth (next (workload.reading key node.store)) after := by
  cases found : node.store.record? key with
  | none =>
      have missing : (node.store.answer (.has key)).1 = .ok false := by
        simp [MemoryStore.answer, MemoryStore.hasRecord_eq, found]
      refine ⟨node.answered (.has key), rfl, calm, fun engine depth next => ?_⟩
      rw [current, Engine.run_store calm, missing, reading, found]
  | some record =>
      have present : (node.store.answer (.has key)).1 = .ok true := by
        simp [MemoryStore.answer, MemoryStore.hasRecord_eq, found]
      have got : ((node.answered (.has key)).store.answer (.get key)).1 = .ok record := by
        have same : (node.answered (.has key)).store = node.store := rfl
        simp [same, MemoryStore.answer, found]
      have calm' : (node.answered (.has key)).faults.Calm := calm
      have reads : (StoreCall.get key).Reads := trivial
      have same : ((node.answered (.has key)).answered (.get key)).store = node.store := reads.after _
      refine ⟨(node.answered (.has key)).answered (.get key), same, calm, fun engine depth next => ?_⟩
      rw [current, Engine.run_store calm, present]
      dsimp only
      rw [Engine.run_store calm', got, reading, found]
      dsimp only
      split <;> rfl

end Workload

end Provision
