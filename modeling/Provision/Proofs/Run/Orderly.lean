import Provision.Proofs.Run.History

/-! # Orderly nodes

A node is orderly if its guards are sound, its store never answers wrongly and its history tells what
happened. An orderly node stays one through everything the engine does; in particular the locks taken
are given back, so that after each run the same locks are held as before.
-/

namespace Provision.Node

open Run

/-- The guards are sound, the store answers truly if it answers, and a condition held at every
    moment. -/
structure Orderly (P : List Mark → Prop) (node : Node) : Prop where
  traced : node.Traced P
  sound : node.guards.Sound
  honest : node.faults.Honest

variable {P : List Mark → Prop} {node after : Node} {call : StoreCall}

theorem orderly_start {faults : FaultPlan} (honest : faults.Honest) (first : P []) :
    ({ faults } : Node).Orderly P := ⟨traced_start faults first, GuardTable.sound_empty, honest⟩

theorem Orderly.marked (orderly : node.Orderly P) {mark : Mark}
    (same : storeAfter (mark :: node.history) = storeAfter node.history)
    (now : P (mark :: node.history)) : (node.marked mark).Orderly P :=
  ⟨orderly.traced.marked same now, orderly.sound, orderly.honest⟩

theorem Orderly.withTable (orderly : node.Orderly P) {table : GuardTable} (sound : table.Sound) :
    (node.withTable .shared table).Orderly P :=
  ⟨orderly.traced.withTable, sound, orderly.honest⟩

section Stable

variable (stable : ∀ mark past, mark.Idle → P past → P (mark :: past))

include stable

theorem Orderly.consulted (orderly : node.Orderly P) (asked : Consulted node after) :
    after.Orderly P where
  traced := asked.traced stable orderly.traced
  sound := asked.guards ▸ orderly.sound
  honest := asked.honest_iff.mpr orderly.honest

theorem Orderly.performed (orderly : node.Orderly P) (done : Performed call node after)
    (now : ∀ past, storeAfter past = node.store → (∃ earlier, past = earlier ++ node.history ∧
      ∀ mark ∈ earlier, mark.Idle) → P past → P (.stored call false :: past)) :
    after.Orderly P where
  traced := done.traced stable orderly.traced now
  sound := done.guards ▸ orderly.sound
  honest := by
    rw [FaultPlan.Honest, done.schedule]
    exact orderly.honest

end Stable

/-- A run under a lock of the engine: the node is as orderly after it, and the same locks are held. -/
theorem Orderly.guarded {ε α : Type} {key : ObjectKey} {mode : LockMode} {body : Run ε α}
    {Q : Node → Prop} (orderly : node.Orderly P) (waits : Q node)
    (runs : ∀ hold held, node.guards.take? key.text mode = some (hold, held) →
      (node.withTable .shared held).Orderly P →
      body.Ends (node.withTable .shared held) fun _ after => after.Orderly P ∧
        held.Agrees after.guards ∧
          ∀ left, node.guards.Agrees left → Q (after.withTable .shared left)) :
    (guarded .shared key mode body).Ends node fun _ after => after.Orderly P ∧ Q after := by
  refine Ends.guarded orderly.sound (fun _ => ⟨orderly, waits⟩) fun hold held taken => ?_
  have start := orderly.withTable (GuardTable.Sound.take? taken orderly.sound)
  refine (runs hold held taken start).imp fun result after ⟨last, agrees, back⟩ => ?_
  exact ⟨agrees, last.sound, fun left same sound => ⟨last.withTable sound, back left same⟩⟩

end Provision.Node
