import Mathlib.Algebra.BigOperators.Group.Finset.Basic
import Mathlib.Algebra.Order.BigOperators.Group.Finset
import Mathlib.Data.Finset.Card
import Provision.Engine.Dependency
import Provision.Proofs.Store.Ledger

/-! # The search through the masters of an object

The search walks from an object towards those that rely on it. It is exact: it meets its goal
just when the goal relies on the object, directly or through others. It ends on every ledger, with
cycles too: each step takes one pending object away, and only an object met for the first time
brings new ones. The order in which a store lists those that rely on an object does not matter, nor
how often it lists one of them, nor whether it lists them in the same way when it is asked again.
-/

namespace Provision

namespace Search

open Relation

/-- What is still to be visited after one more visit. -/
theorem unvisited_insert {world : Finset ObjectKey} {visited : ObjectSet} {key : ObjectKey} :
    (world.filter fun other => other ∉ visited.insert key) =
      (world.filter fun other => other ∉ visited).erase key := by
  ext other
  simp only [Finset.mem_filter, Finset.mem_erase, Std.ExtTreeSet.mem_insert,
    ObjectKey.order_eq_iff, not_or, eq_comm (a := key)]
  tauto

/-- Whether `dependent` relies on `target`, as far as the steps from the masters of `target` tell that
    are allowed. -/
def searchFrom {m : Type → Type} [Monad m] (masters : ObjectKey → m (List ObjectKey))
    (allowed : List ObjectKey → m Nat) (dependent target : ObjectKey) : m (Option Bool) := do
  let first ← masters target
  let steps ← allowed first
  searchMasters masters dependent steps first.reverse ∅

/-! ## Stores that list in their own way -/

section Listing

variable {σ : Type} {masters : ObjectKey → StateM σ (List ObjectKey)}
  {relies : ObjectKey → ObjectKey → Prop} {goal key : ObjectKey} {steps : Nat}
  {pending : List ObjectKey} {visited : ObjectSet} {state last : σ} {found : Bool}

/-- In each of its states a store lists just those that rely on an object, in any order and with any
    repetition. -/
def TrueTo (relies : ObjectKey → ObjectKey → Prop) (masters : ObjectKey → StateM σ (List ObjectKey)) :
    Prop :=
  ∀ slave state master, master ∈ (masters slave state).1 ↔ relies master slave

theorem searchMasters_nil :
    searchMasters masters goal steps [] visited state = (some false, state) := by
  cases steps <;> rfl

theorem searchMasters_cons :
    searchMasters masters goal (steps + 1) (key :: pending) visited state =
      if key = goal then (some true, state)
      else if visited.contains key then searchMasters masters goal steps pending visited state
      else searchMasters masters goal steps ((masters key state).1.reverse ++ pending)
        (visited.insert key) (masters key state).2 := by
  rw [searchMasters]
  split
  · rfl
  · split <;> rfl

/-- What has been visited is not the goal, and what relies on it is visited or pending. -/
def Covered (relies : ObjectKey → ObjectKey → Prop) (goal : ObjectKey) (pending : List ObjectKey)
    (visited : ObjectSet) : Prop :=
  ∀ key ∈ visited, key ≠ goal ∧ ∀ master, relies master key → master ∈ visited ∨ master ∈ pending

theorem Covered.empty : Covered relies goal pending ∅ :=
  fun _ visited => absurd visited Std.ExtTreeSet.not_mem_empty

theorem Covered.skip (covered : Covered relies goal (key :: pending) visited) (seen : key ∈ visited) :
    Covered relies goal pending visited := by
  intro other member
  refine ⟨(covered other member).1, fun master edge => ?_⟩
  rcases (covered other member).2 master edge with old | new
  · exact .inl old
  · rcases List.mem_cons.mp new with rfl | new
    · exact .inl seen
    · exact .inr new

theorem Covered.visit {listed : List ObjectKey} (covered : Covered relies goal (key :: pending) visited)
    (different : key ≠ goal) (all : ∀ master, relies master key → master ∈ listed) :
    Covered relies goal (listed.reverse ++ pending) (visited.insert key) := by
  intro other member
  simp only [Std.ExtTreeSet.mem_insert, ObjectKey.order_eq_iff, List.mem_append,
    List.mem_reverse] at member ⊢
  rcases member with rfl | member
  · exact ⟨different, fun master edge => .inr (.inl (all master edge))⟩
  · refine ⟨(covered other member).1, fun master edge => ?_⟩
    rcases (covered other member).2 master edge with old | new
    · exact .inl (.inr old)
    · rcases List.mem_cons.mp new with rfl | new
      · exact .inl (.inl rfl)
      · exact .inr (.inr new)

/-- The goal has not been visited, so a path from it to what has been leads through what is pending. -/
theorem Covered.exists_pending (covered : Covered relies goal pending visited) (seen : key ∈ visited)
    (path : ReflTransGen relies goal key) : ∃ other ∈ pending, ReflTransGen relies goal other := by
  induction path with
  | refl => exact absurd rfl (covered goal seen).1
  | tail path edge ih =>
      rcases (covered _ seen).2 _ edge with old | new
      · exact ih old
      · exact ⟨_, new, path⟩

/-- A search that ends has met its goal just if there is a path from there to what was pending. -/
theorem exact_of_ends (trueTo : TrueTo relies masters) (covered : Covered relies goal pending visited)
    (ends : searchMasters masters goal steps pending visited state = (some found, last)) :
    found = true ↔ ∃ key ∈ pending, ReflTransGen relies goal key := by
  induction steps generalizing pending visited state with
  | zero =>
      cases pending with
      | nil => cases ends; simp
      | cons => cases ends
  | succ steps ih =>
      cases pending with
      | nil => cases ends; simp
      | cons key pending =>
          rw [searchMasters_cons] at ends
          split at ends
          next same =>
            cases ends
            exact iff_of_true rfl ⟨key, List.mem_cons_self, same ▸ .refl⟩
          next different =>
          split at ends
          next seen =>
            have rest := covered.skip seen
            rw [ih rest ends, List.exists_mem_cons_iff]
            exact (or_iff_right_of_imp (rest.exists_pending seen)).symm
          next =>
            have all : ∀ master, master ∈ (masters key state).1 ↔ relies master key := trueTo key state
            rw [ih (covered.visit different fun master => (all master).mpr) ends, List.exists_mem_cons_iff]
            simp only [List.mem_append, List.mem_reverse, all, or_and_right, exists_or]
            refine or_congr_left ?_
            -- The goal is not here, so a path from it comes to an end by one more edge.
            rw [ReflTransGen.cases_tail_iff, or_iff_right different]
            exact exists_congr fun master => and_comm

/-- The search comes to an end, if it is given enough steps. -/
def Stops (masters : ObjectKey → StateM σ (List ObjectKey)) (goal : ObjectKey) (pending : List ObjectKey)
    (visited : ObjectSet) (state : σ) : Prop :=
  ∃ enough, ∀ steps, enough ≤ steps → ∃ found last,
    searchMasters masters goal steps pending visited state = (some found, last)

theorem Stops.step {rest : List ObjectKey} {seen : ObjectSet} {next : σ}
    (stops : Stops masters goal rest seen next)
    (step : ∀ steps, searchMasters masters goal (steps + 1) pending visited state =
      searchMasters masters goal steps rest seen next) :
    Stops masters goal pending visited state := by
  obtain ⟨enough, ends⟩ := stops
  refine ⟨enough + 1, fun steps more => ?_⟩
  obtain ⟨steps, rfl⟩ := Nat.exists_eq_add_one_of_ne_zero (Nat.ne_zero_of_lt more)
  rw [step]
  exact ends steps (Nat.le_of_succ_le_succ more)

/-- The search ends where only finitely many objects have others that rely on them: each step takes
    a pending object away, or visits one of those for the first time. -/
theorem stops (trueTo : TrueTo relies masters) {world : Finset ObjectKey}
    (outside : ∀ key ∉ world, ∀ master, ¬relies master key) :
    Stops masters goal pending visited state := by
  generalize count : (world.filter (· ∉ visited)).card = n
  induction n using Nat.strong_induction_on generalizing pending visited state with
  | _ n fewer =>
      induction pending generalizing visited state with
      | nil => exact ⟨0, fun steps _ => ⟨false, state, searchMasters_nil⟩⟩
      | cons key pending rest =>
          by_cases met : key = goal
          · refine ⟨1, fun steps more => ⟨true, state, ?_⟩⟩
            obtain ⟨steps, rfl⟩ := Nat.exists_eq_add_one_of_ne_zero (Nat.ne_zero_of_lt more)
            rw [searchMasters_cons, if_pos met]
          by_cases seen : key ∈ visited
          · have skipped : Stops masters goal pending visited state := rest count
            refine skipped.step fun steps => ?_
            rw [searchMasters_cons, if_neg met, if_pos (Std.ExtTreeSet.contains_iff_mem.mpr seen)]
          refine Stops.step (?_ : Stops masters goal ((masters key state).1.reverse ++ pending)
            (visited.insert key) (masters key state).2) fun steps => ?_
          · by_cases inside : key ∈ world
            · refine fewer _ ?_ rfl
              rw [← count, unvisited_insert]
              exact Finset.card_erase_lt_of_mem (Finset.mem_filter.mpr ⟨inside, seen⟩)
            · have none : (masters key state).1 = [] := List.eq_nil_iff_forall_not_mem.mpr fun master listed =>
                outside key inside master ((trueTo key state master).mp listed)
              rw [none, List.reverse_nil, List.nil_append]
              refine rest ?_
              rw [unvisited_insert, Finset.erase_eq_of_notMem (by simp [inside]), count]
          · rw [searchMasters_cons, if_neg met, if_neg (by simpa using seen)]

theorem exists_exact {dependent target : ObjectKey} (trueTo : TrueTo relies masters) {world : Finset ObjectKey}
    (outside : ∀ key ∉ world, ∀ master, ¬relies master key) :
    ∃ enough, ∀ steps, enough ≤ steps → ∃ found last,
      searchFrom masters (fun _ => return steps) dependent target state = (some found, last) ∧
        (found = true ↔ TransGen relies dependent target) := by
  have comes : Stops masters dependent (masters target state).1.reverse ∅ (masters target state).2 :=
    stops trueTo outside
  obtain ⟨enough, ends⟩ := comes
  refine ⟨enough, fun steps more => ?_⟩
  obtain ⟨found, last, answer⟩ := ends steps more
  refine ⟨found, last, answer, ?_⟩
  rw [exact_of_ends trueTo .empty answer, TransGen.tail'_iff]
  simp only [List.mem_reverse, trueTo target state, and_comm]

end Listing

/-! ## The store in memory -/

section Memory

variable {masters : ObjectKey → List ObjectKey} {goal target : ObjectKey} {steps : Nat}
  {pending : List ObjectKey} {visited : ObjectSet}

/-- The search on its own, where the masters of an object are had for nothing. -/
def search (masters : ObjectKey → List ObjectKey) (goal : ObjectKey) (steps : Nat)
    (pending : List ObjectKey) (visited : ObjectSet) : Option Bool :=
  searchMasters (m := Id) masters goal steps pending visited

theorem search_nil : search masters goal steps [] visited = some false := by
  cases steps <;> rfl

theorem search_cons {key : ObjectKey} :
    search masters goal (steps + 1) (key :: pending) visited =
      if key = goal then some true
      else if visited.contains key then search masters goal steps pending visited
      else search masters goal steps ((masters key).reverse ++ pending) (visited.insert key) := rfl

/-- One object is listed among the masters of another. -/
def Lists (masters : ObjectKey → List ObjectKey) (master slave : ObjectKey) : Prop :=
  master ∈ masters slave

/-- It is the search through a store that has a single state. -/
theorem searchMasters_stateless :
    searchMasters (m := StateM Unit) (fun key state => (masters key, state)) goal steps pending visited () =
      (search masters goal steps pending visited, ()) := by
  induction steps generalizing pending visited with
  | zero => cases pending <;> rfl
  | succ steps ih =>
      cases pending with
      | nil => rw [searchMasters_nil, search_nil]
      | cons key pending =>
          rw [searchMasters_cons, search_cons, ih, ih]
          split
          · rfl
          · split <;> rfl

/-- What the search may still have to look at: what is pending, and the masters of everything not
    yet visited. -/
def remaining (masters : ObjectKey → List ObjectKey) (world : Finset ObjectKey)
    (pending : List ObjectKey) (visited : ObjectSet) : Nat :=
  pending.length + ∑ key ∈ world with key ∉ visited, (masters key).length

theorem sum_unvisited_insert {world : Finset ObjectKey}
    (outside : ∀ key ∉ world, masters key = []) {key : ObjectKey} (new : key ∉ visited) :
    ∑ other ∈ world with other ∉ visited, (masters other).length =
      (masters key).length +
        ∑ other ∈ world with other ∉ visited.insert key, (masters other).length := by
  rw [unvisited_insert]
  by_cases inside : key ∈ world
  · exact (Finset.add_sum_erase _ (fun other => (masters other).length)
      (Finset.mem_filter.mpr ⟨inside, new⟩)).symm
  · rw [Finset.erase_eq_of_notMem (by simp [inside]), outside key inside]
    simp

theorem search_ne_none {world : Finset ObjectKey} (outside : ∀ key ∉ world, masters key = [])
    (enough : remaining masters world pending visited ≤ steps) :
    search masters goal steps pending visited ≠ none := by
  induction steps generalizing pending visited with
  | zero =>
      cases pending with
      | nil => simp [search_nil]
      | cons => simp [remaining] at enough
  | succ steps ih =>
      cases pending with
      | nil => simp [search_nil]
      | cons key pending =>
          rw [search_cons]
          split
          · simp
          simp only [remaining, List.length_cons] at enough
          split
          next => exact ih (by simp only [remaining]; omega)
          next new =>
            apply ih
            rw [sum_unvisited_insert outside (show key ∉ visited by simpa using new)] at enough
            simp only [remaining, List.length_append, List.length_reverse]
            omega

/-- From the masters of an object, the search has an answer, and the answer is whether its goal
    relies on the object, directly or through others. -/
theorem search_masters {world : Finset ObjectKey} (outside : ∀ key ∉ world, masters key = [])
    (enough : (masters target).length + ∑ key ∈ world, (masters key).length ≤ steps) :
    ∃ found, search masters goal steps (masters target).reverse ∅ = some found ∧
      (found = true ↔ TransGen (Lists masters) goal target) := by
  have ends : search masters goal steps (masters target).reverse ∅ ≠ none := by
    refine search_ne_none outside ?_
    simpa [remaining, Std.ExtTreeSet.not_mem_empty] using enough
  obtain ⟨found, answer⟩ := Option.ne_none_iff_exists'.mp ends
  refine ⟨found, answer, ?_⟩
  have trueTo : TrueTo (σ := Unit) (Lists masters) fun key state => (masters key, state) := fun _ _ _ => Iff.rfl
  rw [exact_of_ends trueTo .empty (searchMasters_stateless.trans (congrArg (·, ()) answer)), TransGen.tail'_iff]
  simp only [List.mem_reverse, and_comm, Lists]

end Memory

end Search

namespace MemoryStore

open Relation Search

variable {store : MemoryStore}

theorem nodup_mastersOf (slave : ObjectKey) : (store.mastersOf slave).Nodup := by
  unfold mastersOf
  cases store.masters[slave]? with
  | none => exact List.nodup_nil
  | some set =>
      refine (Std.ExtTreeSet.distinct_toList (t := set)).imp ?_
      intro a b apart same
      exact apart (ObjectKey.order_eq_iff.mpr same)

/-- Counted by their slaves, the edges are no more than the ledger lists. -/
theorem Paired.sum_mastersOf_le (paired : store.Paired) (slaves : Finset ObjectKey) :
    ∑ slave ∈ slaves, (store.mastersOf slave).length ≤ store.edges.length := by
  calc
    ∑ slave ∈ slaves, (store.mastersOf slave).length
      = ∑ slave ∈ slaves, (store.mastersOf slave).toFinset.card := by
        refine Finset.sum_congr rfl fun slave _ => ?_
        exact (List.toFinset_card_of_nodup (nodup_mastersOf slave)).symm
    _ = (slaves.sigma fun slave => (store.mastersOf slave).toFinset).card :=
        (Finset.card_sigma _ _).symm
    _ ≤ store.edges.toFinset.card := by
        refine Finset.card_le_card_of_injOn (fun edge => (edge.2, edge.1)) ?_ ?_
        · intro edge member
          simp only [Finset.coe_sigma, Set.mem_sigma_iff, Finset.mem_coe, List.mem_toFinset] at member
          exact List.mem_toFinset.mpr (paired.mem_mastersOf_iff.mp member.2)
        · rintro ⟨slave, master⟩ - ⟨slave', master'⟩ - same
          simp only [Prod.mk.injEq] at same
          rw [same.1, same.2]
    _ ≤ store.edges.length := List.toFinset_card_le _

theorem Paired.lists_mastersOf (paired : store.Paired) : Lists store.mastersOf = store.Relies := by
  funext master slave
  exact propext paired.mem_mastersOf_iff

/-- The search through the ledger of a store ends within the steps allowed, and tells whether one
    object relies on another, directly or through others. -/
theorem Paired.search_mastersOf (paired : store.Paired) (dependent target : ObjectKey) :
    ∃ found, search store.mastersOf dependent
        ((store.mastersOf target).length + store.edges.length)
        (store.mastersOf target).reverse ∅ = some found ∧
      (found = true ↔ TransGen store.Relies dependent target) := by
  let slaves : Finset ObjectKey := (store.masters.toList.map Prod.fst).toFinset
  have outside : ∀ key ∉ slaves, store.mastersOf key = [] := by
    intro key absent
    cases found : store.masters[key]? with
    | none => simp [mastersOf, found]
    | some set =>
        refine absurd ?_ absent
        rw [List.mem_toFinset, List.mem_map]
        exact ⟨(key, set), Std.ExtTreeMap.mem_toList_iff_getElem?_eq_some.mpr found, rfl⟩
  rw [← paired.lists_mastersOf]
  exact search_masters outside (Nat.add_le_add_left (paired.sum_mastersOf_le slaves) _)

end MemoryStore

end Provision
