import Mathlib.Data.Finset.Image
import Provision.Proofs.Engine.Assembly
import Provision.Proofs.Engine.Reservation

/-! # Whether one object relies on another

A reservation asks whether its slave relies on its master already. The answer comes from the search through
the masters of objects, which ends and is exact on every ledger, with cycles and with objects that rely on
themselves, whatever the order in which the store lists those that rely on an object and however often it
lists them. The steps that the engine allows are enough.
-/

namespace Provision

open Run Node Relation Search

/-- An edge of a ledger leads from a master to a slave. -/
def Edge (ledger : Finset (ObjectKey × ObjectKey)) (master slave : ObjectKey) : Prop :=
  (master, slave) ∈ ledger

instance (ledger : Finset (ObjectKey × ObjectKey)) (master slave : ObjectKey) :
    Decidable (Edge ledger master slave) :=
  inferInstanceAs (Decidable ((master, slave) ∈ ledger))

theorem not_edge_of_unlisted {ledger : Finset (ObjectKey × ObjectKey)} (key : ObjectKey)
    (unlisted : key ∉ ledger.image Prod.snd) (master : ObjectKey) : ¬Edge ledger master key :=
  fun edge => unlisted (Finset.mem_image.mpr ⟨_, edge, rfl⟩)

/-- What a search makes of its end. -/
def concluded : Option Bool → Run EngineError Bool
  | some found => return found
  | none => throw .tooDeep

/-- The engine searches with the answers of its own store. -/
theorem dependsOn_eq (dependent target : ObjectKey) : dependsOn dependent target =
    searchFrom (fun key => demand (.masters key))
      (fun first => return first.length + (← get).store.edges.length) dependent target >>= concluded := by
  simp only [dependsOn, searchFrom, bind_assoc, pure_bind]
  rfl

theorem exists_dependsOn {node : Node} (paired : node.store.Paired) (calm : node.faults.Calm)
    (dependent target : ObjectKey) : ∃ found after, dependsOn dependent target node = (.ok found, after) ∧
      (found = true ↔ TransGen node.store.Relies dependent target) := by
  have learns : (dependsOn dependent target).Ends node (Learns node fun found =>
      found = true ↔ TransGen node.store.Relies dependent target) := learns_dependsOn paired
  cases ran : dependsOn dependent target node with
  | mk result after =>
      obtain ⟨-, known⟩ := learns.of_eq ran
      cases result with
      | ok found => exact ⟨found, after, rfl, known⟩
      | error halt => exact absurd calm known.2

/-- With a store that is true to a ledger, be its answers ordered and repeated as they may and be they
    different each time, the search ends, and tells whether there is a path of edges from the dependent object
    to the target. The engine's search is this one, and ends so on each node whose store has that ledger and
    does not fail: the steps that it is allowed are enough. -/
theorem dependsOn_exact {σ : Type} {ledger : Finset (ObjectKey × ObjectKey)}
    {masters : ObjectKey → StateM σ (List ObjectKey)} (trueTo : TrueTo (Edge ledger) masters)
    (dependent target : ObjectKey) :
    (∀ state, ∃ enough, ∀ steps, enough ≤ steps → ∃ found last,
      searchFrom masters (fun _ => return steps) dependent target state = (some found, last) ∧
        (found = true ↔ TransGen (Edge ledger) dependent target)) ∧
    dependsOn dependent target = searchFrom (fun key => demand (.masters key))
      (fun first => return first.length + (← get).store.edges.length) dependent target >>= concluded ∧
    ∀ node : Node, node.store.Paired → node.faults.Calm →
      (∀ master slave, node.store.Relies master slave ↔ Edge ledger master slave) →
      ∃ found after, dependsOn dependent target node = (.ok found, after) ∧
        (found = true ↔ TransGen (Edge ledger) dependent target) := by
  refine ⟨fun state => exists_exact trueTo not_edge_of_unlisted, dependsOn_eq dependent target, ?_⟩
  intro node paired calm same
  have relies : node.store.Relies = Edge ledger := funext₂ fun master slave => propext (same master slave)
  exact relies ▸ exists_dependsOn paired calm dependent target

namespace Small

/-- Two objects that rely on each other, one of them on itself too, and a third that relies on the other. -/
def tangle : Finset (ObjectKey × ObjectKey) :=
  {(object "a", object "b"), (object "b", object "a"), (object "b", object "b"), (object "c", object "a")}

/-- A store that changes order every other time, and repeats itself then. -/
def fickle (slave : ObjectKey) : StateM Bool (List ObjectKey) := fun turned =>
  let found := (["a", "b", "c"].map object).filter fun master => (master, slave) ∈ tangle
  (if turned then found.reverse ++ found else found, !turned)

theorem fickle_trueTo : TrueTo (Edge tangle) fickle := by
  intro slave turned master
  have listed : (master, slave) ∈ tangle → master ∈ ["a", "b", "c"].map object := by
    intro edge
    simp only [tangle, Finset.mem_insert, Finset.mem_singleton, Prod.mk.injEq] at edge
    rcases edge with ⟨rfl, -⟩ | ⟨rfl, -⟩ | ⟨rfl, -⟩ | ⟨rfl, -⟩ <;> simp
  cases turned <;> simpa [fickle, Edge] using listed

/-- The tangle in the store of the engine. -/
def tangled : Node where
  store := [("a", "b"), ("b", "a"), ("b", "b"), ("c", "a")].foldl
    (fun store (master, slave) => store.link (object master) (object slave)) .empty

theorem tangled_paired : tangled.store.Paired :=
  (((MemoryStore.paired_empty.after (.link _ _)).after (.link _ _)).after (.link _ _)).after (.link _ _)

theorem tangled_relies (master slave : ObjectKey) :
    tangled.store.Relies master slave ↔ Edge tangle master slave := by
  simp only [tangled, List.foldl_cons, List.foldl_nil, MemoryStore.relies_link, MemoryStore.not_relies_empty,
    Edge, tangle, Finset.mem_insert, Finset.mem_singleton, Prod.mk.injEq]
  tauto

end Small

/-- The third object is found to rely on the one that it has no edge to, and nothing to rely on the third. -/
theorem dependsOn_exact_tangle :
    (TrueTo (Edge Small.tangle) Small.fickle ∧ Small.tangled.store.Paired ∧ Small.tangled.faults.Calm ∧
      ∀ master slave, Small.tangled.store.Relies master slave ↔ Edge Small.tangle master slave) ∧
    (∃ enough, ∀ steps, enough ≤ steps →
      (searchFrom Small.fickle (fun _ => return steps) (Small.object "c") (Small.object "b") false).1 =
        some true ∧
      (searchFrom Small.fickle (fun _ => return steps) (Small.object "b") (Small.object "c") true).1 =
        some false) ∧
    (dependsOn (Small.object "c") (Small.object "b") Small.tangled).1 = .ok true ∧
      (dependsOn (Small.object "b") (Small.object "c") Small.tangled).1 = .ok false := by
  have up : TransGen (Edge Small.tangle) (Small.object "c") (Small.object "b") := by
    have first : Edge Small.tangle (Small.object "c") (Small.object "a") := by decide +kernel
    exact .tail (.single first) (by decide +kernel)
  have never : ∀ master, ¬Edge Small.tangle master (Small.object "c") := by
    simp [Edge, Small.tangle, Small.object]
  have down : ¬TransGen (Edge Small.tangle) (Small.object "b") (Small.object "c") := by
    intro path
    obtain ⟨master, -, edge⟩ := TransGen.tail'_iff.mp path
    exact never master edge
  have calm : Small.tangled.faults.Calm := FaultPlan.calm_none
  obtain ⟨ends, -, engine⟩ := dependsOn_exact Small.fickle_trueTo (Small.object "c") (Small.object "b")
  obtain ⟨ends', -, engine'⟩ := dependsOn_exact Small.fickle_trueTo (Small.object "b") (Small.object "c")
  refine ⟨⟨Small.fickle_trueTo, Small.tangled_paired, calm, Small.tangled_relies⟩, ?_, ?_, ?_⟩
  · obtain ⟨enough, ends⟩ := ends false
    obtain ⟨enough', ends'⟩ := ends' true
    refine ⟨max enough enough', fun steps more => ?_⟩
    obtain ⟨found, last, answer, exact⟩ := ends steps (le_of_max_le_left more)
    obtain ⟨found', last', answer', exact'⟩ := ends' steps (le_of_max_le_right more)
    rw [answer, answer', exact.mpr up, Bool.eq_false_iff.mpr fun met => down (exact'.mp met)]
    exact ⟨rfl, rfl⟩
  · obtain ⟨found, after, ran, exact⟩ := engine Small.tangled Small.tangled_paired calm Small.tangled_relies
    rw [ran, exact.mpr up]
  · obtain ⟨found, after, ran, exact⟩ := engine' Small.tangled Small.tangled_paired calm Small.tangled_relies
    rw [ran, Bool.eq_false_iff.mpr fun met => down (exact.mp met)]

end Provision
