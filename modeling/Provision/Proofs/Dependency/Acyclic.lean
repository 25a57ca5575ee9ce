import Provision.Proofs.Engine.Assembly
import Provision.Proofs.Engine.Framing

/-! # Nothing relies on itself

An edge is recorded only where its slave does not rely on its master already, so recording one closes
no cycle, and whatever else is done takes edges away. As the edge is checked and recorded without
anything in between, it does not matter which reservations are still undecided.
-/

namespace Provision

open Run Node Relation

namespace MemoryStore

variable {store other : MemoryStore} {master slave a b : ObjectKey} {call : StoreCall}

/-- No object relies on itself, directly or through others. -/
def Acyclic (store : MemoryStore) : Prop := ∀ key, ¬TransGen store.Relies key key

theorem acyclic_empty : empty.Acyclic := by
  intro key path
  obtain ⟨_, edge, -⟩ := TransGen.head'_iff.mp path
  exact not_relies_empty edge

theorem Acyclic.mono (acyclic : store.Acyclic)
    (fewer : ∀ master slave, other.Relies master slave → store.Relies master slave) :
    other.Acyclic := fun key path => acyclic key (TransGen.mono fewer key key path)

/-- A path that uses a new edge comes to its master and goes on from its slave. -/
theorem path_link (path : TransGen (store.link master slave).Relies a b) :
    TransGen store.Relies a b ∨
      ReflTransGen store.Relies a master ∧ ReflTransGen store.Relies slave b := by
  induction path with
  | single edge =>
      rcases relies_link.mp edge with ⟨rfl, rfl⟩ | old
      · exact .inr ⟨.refl, .refl⟩
      · exact .inl (.single old)
  | tail _ edge ih =>
      rcases relies_link.mp edge with ⟨rfl, rfl⟩ | old
      · rcases ih with before | ⟨before, -⟩
        · exact .inr ⟨before.to_reflTransGen, .refl⟩
        · exact .inr ⟨before, .refl⟩
      · rcases ih with before | ⟨before, after⟩
        · exact .inl (before.tail old)
        · exact .inr ⟨before, after.tail old⟩

theorem Acyclic.link (acyclic : store.Acyclic) (different : master ≠ slave)
    (apart : ¬TransGen store.Relies slave master) : (store.link master slave).Acyclic := by
  intro key path
  rcases path_link path with old | ⟨toMaster, fromSlave⟩
  · exact acyclic key old
  · rcases reflTransGen_iff_eq_or_transGen.mp (fromSlave.trans toMaster) with same | around
    · exact different same
    · exact apart around

/-- Every order but that of a new edge leaves an acyclic ledger acyclic. -/
theorem Acyclic.after (acyclic : store.Acyclic) (other : ∀ m s, call ≠ .link m s) :
    (store.after call).Acyclic := by
  refine acyclic.mono fun master slave edge => ?_
  rw [relies_after] at edge
  cases call with
  | link m s => exact absurd rfl (other m s)
  | unlink | release | remove => exact edge.1
  | get | has | write | masters => exact edge

end MemoryStore

/-- The ledger of a moment is acyclic. -/
def AcyclicAt (past : List Mark) : Prop := (storeAfter past).Acyclic

theorem AcyclicAt.cons {mark : Mark} {past : List Mark} (acyclic : AcyclicAt past)
    (other : ∀ m s, mark ≠ .stored (.link m s) false) : AcyclicAt (mark :: past) := by
  cases mark with
  | stored call astray =>
      cases astray with
      | false =>
          refine MemoryStore.Acyclic.after acyclic fun m s same => ?_
          exact other m s (by rw [same])
      | true => exact acyclic
  | began | ended | reported | noted => exact acyclic

/-- What an actor may do if it is to leave the recording of edges to the engine. -/
def NeverLinks (_ : Actor) (deed : Deed) : Prop := ∀ m s, deed ≠ .store (.link m s)

/-- If the ledger was acyclic at every moment before, it was at every moment after. -/
def KeepsAcyclic (node after : Node) : Prop := node.Traced AcyclicAt → after.Traced AcyclicAt

namespace KeepsAcyclic

variable {node after : Node} {call : StoreCall} {master slave : ObjectKey}

theorem idle {mark : Mark} {past : List Mark} (idle : mark.Idle) (acyclic : AcyclicAt past) :
    AcyclicAt (mark :: past) := by
  refine acyclic.cons fun m s same => ?_
  subst same
  exact idle.elim Bool.false_ne_true id

theorem consulted (asked : Consulted node after) : KeepsAcyclic node after :=
  asked.traced fun _ _ => idle

theorem performed (done : Performed call node after) (other : ∀ m s, call ≠ .link m s) :
    KeepsAcyclic node after := by
  intro traced
  refine done.traced (fun _ _ => idle) traced fun past _ _ acyclic => ?_
  exact acyclic.cons fun m s same => other m s (by cases same; rfl)

/-- What is checked before an edge is recorded is just what keeps the ledger acyclic. -/
theorem linked (done : Performed (.link master slave) node after) (different : master ≠ slave)
    (apart : ¬TransGen node.store.Relies slave master) : KeepsAcyclic node after := by
  intro traced
  refine done.traced (fun _ _ => idle) traced fun past store _ acyclic => ?_
  rw [← store] at apart
  exact MemoryStore.Acyclic.link acyclic different apart

theorem additive : Additive KeepsAcyclic where
  refl _ traced := traced
  trans _ _ _ first second traced := second (first traced)
  consulted := consulted
  began _ _ _ traced := traced.marked rfl traced.now
  ended _ _ _ traced := traced.marked rfl traced.now
  table _ _ _ traced := traced.withTable
  paired keeps traced := keeps traced.paired traced
  ordered := performed
  linked := linked

end KeepsAcyclic

/-- The ledger is acyclic at every moment of every run from an empty store in which edges are
    recorded through the engine only, whatever fails on the way. -/
theorem serve_acyclic (engine : Engine) (depth : Nat) (faults : FaultPlan)
    {operations : List Operation}
    (handlers : ∀ resource ∈ engine.resources, resource.Confined NeverLinks)
    (callers : ∀ operation ∈ operations, operation.Confined (fun _ => True) NeverLinks) :
    (engine.serve depth { faults } operations).Traced fun past => (storeAfter past).Acyclic :=
  (KeepsAcyclic.additive.upheld fun _ m s may => may m s rfl).serve (fun _ _ => trivial) handlers
    depth { faults } callers (traced_start faults MemoryStore.acyclic_empty)

/-- Two reservations that would make two disks rely on each other, the second in the scope of the
    first. -/
def Small.opposite : List Operation :=
  [.program (act "disk" "create" "a"), .program (act "disk" "create" "b"),
    .program (reserve "a" "b" (reserve "b" "a" (.done (.ok .null)) (.ok .null)) (.ok .null))]

/-- Only the first of two opposite reservations is made. -/
theorem serve_acyclic_opposite :
    ((∀ resource ∈ Small.engine.resources, resource.Confined NeverLinks) ∧
      ∀ operation ∈ Small.opposite, operation.Confined (fun _ => True) NeverLinks) ∧
    (Small.engine.serve 9 { faults := .none } Small.opposite).store.edges =
      [(Small.object "a", Small.object "b")] ∧
    (Small.engine.serve 9 { faults := .none } Small.opposite).Traced
      fun past => (storeAfter past).Acyclic := by
  have handlers : ∀ resource ∈ Small.engine.resources, resource.Confined NeverLinks :=
    Small.engine_confined fun _ _ _ _ same => nomatch same
  have callers : ∀ operation ∈ Small.opposite, operation.Confined (fun _ => True) NeverLinks := by
    simp [Small.opposite, Small.act, Small.reserve, Operation.Confined, Program.Confined, NeverLinks]
  refine ⟨⟨handlers, callers⟩, ?_, serve_acyclic Small.engine 9 .none handlers callers⟩
  decide +kernel

end Provision
