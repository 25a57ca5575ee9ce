import Mathlib.Logic.Relation
import Mathlib.Tactic.Tauto
import Provision.Store.Call

/-! # The ledger as a relation

The two maps of sets are one relation between masters and slaves: each edge is found from both its
ends. Linking adds one pair to it, unlinking takes one away, and releasing a master takes away the
pairs in which it is the master.
-/

namespace Provision

namespace ObjectKey

@[simp] theorem order_eq_iff {a b : ObjectKey} : order a b = .eq ↔ a = b :=
  Std.LawfulEqCmp.compare_eq_iff_eq

end ObjectKey

namespace ObjectMap

/-- An object is in the set kept for a key. -/
def Joins (map : ObjectMap ObjectSet) (key object : ObjectKey) : Prop :=
  ∃ set, map[key]? = some set ∧ object ∈ set

theorem not_joins_empty {key object : ObjectKey} : ¬Joins ∅ key object := by
  simp [Joins]

theorem joins_link {map : ObjectMap ObjectSet} {key object k o : ObjectKey} :
    Joins (ObjectMap.link map key object) k o ↔ k = key ∧ o = object ∨ Joins map k o := by
  simp only [Joins, ObjectMap.link, Std.ExtTreeMap.getElem?_insert, ObjectKey.order_eq_iff]
  by_cases same : key = k
  · subst same
    cases map[key]? <;> simp [Std.ExtTreeSet.mem_insert, eq_comm (a := object)]
  · simp [same, Ne.symm same]

theorem joins_unlink {map : ObjectMap ObjectSet} {key object k o : ObjectKey} :
    Joins (ObjectMap.unlink map key object) k o ↔ Joins map k o ∧ ¬(k = key ∧ o = object) := by
  cases found : map[key]? with
  | none =>
      simp only [ObjectMap.unlink, found, iff_self_and]
      rintro ⟨set, atKey, -⟩ ⟨rfl, -⟩
      simp [found] at atKey
  | some set =>
      simp only [ObjectMap.unlink, found]
      by_cases same : key = k
      · subst same
        have erased : ∀ other, other ∈ set.erase object ↔ other ∈ set ∧ other ≠ object := by
          intro other
          simp [Std.ExtTreeSet.mem_erase, and_comm, eq_comm (a := object)]
        by_cases emptied : (set.erase object).isEmpty
        · have gone : ¬(o ∈ set ∧ o ≠ object) := by
            rw [← erased, Std.ExtTreeSet.isEmpty_iff.mp emptied]
            exact Std.ExtTreeSet.not_mem_empty
          simpa [emptied, Joins, found] using gone
        · simp [emptied, Joins, found, erased]
      · split <;> simp [Joins, Std.ExtTreeMap.getElem?_erase, Std.ExtTreeMap.getElem?_insert, same,
          Ne.symm same]

end ObjectMap

namespace MemoryStore

/-- A master relies on a slave: the ledger has an edge from one to the other. -/
def Relies (store : MemoryStore) (master slave : ObjectKey) : Prop := (master, slave) ∈ store.edges

instance (store : MemoryStore) (master slave : ObjectKey) : Decidable (store.Relies master slave) :=
  inferInstanceAs (Decidable ((master, slave) ∈ store.edges))

/-- Each edge is found from both its ends. -/
def Paired (store : MemoryStore) : Prop :=
  ∀ master slave, store.slaves.Joins master slave ↔ store.masters.Joins slave master

variable {store : MemoryStore} {master slave m s key : ObjectKey}

theorem mem_listed {map : ObjectMap ObjectSet} {key object : ObjectKey} :
    object ∈ (map[key]?.map (·.toList)).getD [] ↔ map.Joins key object := by
  cases found : map[key]? <;> simp [ObjectMap.Joins, found]

theorem mem_slavesOf : slave ∈ store.slavesOf master ↔ store.slaves.Joins master slave := mem_listed

theorem mem_mastersOf : master ∈ store.mastersOf slave ↔ store.masters.Joins slave master :=
  mem_listed

theorem relies_iff : store.Relies master slave ↔ store.slaves.Joins master slave := by
  simp only [Relies, edges, List.mem_flatMap, List.mem_map, Prod.exists, Prod.mk.injEq,
    Std.ExtTreeMap.mem_toList_iff_getElem?_eq_some, Std.ExtTreeSet.mem_toList, ObjectMap.Joins]
  constructor
  · intro both
    obtain ⟨key, set, atKey, object, member, rfl, rfl⟩ := both
    exact ⟨set, atKey, member⟩
  · intro both
    obtain ⟨set, atKey, member⟩ := both
    exact ⟨master, set, atKey, slave, member, rfl, rfl⟩

theorem Paired.mem_mastersOf_iff (paired : store.Paired) :
    master ∈ store.mastersOf slave ↔ store.Relies master slave := by
  rw [mem_mastersOf, relies_iff, paired]

theorem Paired.mastersOf_eq_nil_iff (paired : store.Paired) :
    store.mastersOf slave = [] ↔ ∀ master, ¬store.Relies master slave := by
  simp only [List.eq_nil_iff_forall_not_mem, paired.mem_mastersOf_iff]

/-! ## What each operation does to the edges -/

theorem not_relies_empty : ¬empty.Relies master slave := by
  rw [relies_iff]
  exact ObjectMap.not_joins_empty

theorem paired_empty : empty.Paired := fun _ _ =>
  iff_of_false ObjectMap.not_joins_empty ObjectMap.not_joins_empty

theorem relies_link :
    (store.link m s).Relies master slave ↔ master = m ∧ slave = s ∨ store.Relies master slave := by
  simp only [relies_iff]
  exact ObjectMap.joins_link

theorem relies_unlink :
    (store.unlink m s).Relies master slave ↔
      store.Relies master slave ∧ ¬(master = m ∧ slave = s) := by
  simp only [relies_iff]
  exact ObjectMap.joins_unlink

theorem Paired.link (paired : store.Paired) : (store.link m s).Paired := by
  intro master slave
  refine ObjectMap.joins_link.trans (Iff.trans ?_ ObjectMap.joins_link.symm)
  rw [paired, and_comm]

theorem Paired.unlink (paired : store.Paired) : (store.unlink m s).Paired := by
  intro master slave
  refine ObjectMap.joins_unlink.trans (Iff.trans ?_ ObjectMap.joins_unlink.symm)
  rw [paired, and_comm (a := master = m)]

/-- Takes away the edges from a master to some slaves. -/
def unlinkAll (store : MemoryStore) (master : ObjectKey) (slaves : List ObjectKey) : MemoryStore :=
  slaves.foldl (fun store slave => store.unlink master slave) store

theorem relies_unlinkAll {slaves : List ObjectKey} :
    (store.unlinkAll m slaves).Relies master slave ↔
      store.Relies master slave ∧ ¬(master = m ∧ slave ∈ slaves) := by
  induction slaves generalizing store with
  | nil => simp [unlinkAll]
  | cons first rest ih =>
      rw [unlinkAll, List.foldl_cons, ← unlinkAll, ih, relies_unlink, List.mem_cons]
      tauto

theorem Paired.unlinkAll (paired : store.Paired) {slaves : List ObjectKey} :
    (store.unlinkAll m slaves).Paired := by
  induction slaves generalizing store with
  | nil => exact paired
  | cons first rest ih => exact ih paired.unlink

@[simp] theorem records_unlinkAll {slaves : List ObjectKey} :
    (store.unlinkAll m slaves).records = store.records := by
  induction slaves generalizing store with
  | nil => rfl
  | cons first rest ih => exact ih

theorem release_snd : (store.release m).2 = store.unlinkAll m (store.slavesOf m) := rfl

theorem relies_release :
    (store.release m).2.Relies master slave ↔ store.Relies master slave ∧ master ≠ m := by
  rw [release_snd, relies_unlinkAll]
  constructor
  · intro both
    obtain ⟨edge, kept⟩ := both
    refine ⟨edge, fun same => kept ⟨same, ?_⟩⟩
    rw [mem_slavesOf, ← relies_iff, ← same]
    exact edge
  · intro both
    obtain ⟨edge, different⟩ := both
    exact ⟨edge, fun both => different both.1⟩

theorem Paired.release (paired : store.Paired) : (store.release m).2.Paired := paired.unlinkAll

/-! ## What each call leaves -/

/-- The store that a call leaves. -/
def after (store : MemoryStore) (call : StoreCall) : MemoryStore := (store.answer call).2

theorem after_remove :
    store.after (.remove m) =
      if store.hasRecord m then
        (MemoryStore.release { store with records := store.records.erase m } m).2
      else store := by
  simp only [after, answer, remove?]
  by_cases present : store.hasRecord m = true <;> simp [present]

theorem Paired.after (paired : store.Paired) (call : StoreCall) : (store.after call).Paired := by
  cases call with
  | get at' => cases found : store.record? at' <;> simpa [MemoryStore.after, answer, found]
  | has | masters | write => exact paired
  | remove =>
      rw [after_remove]
      split
      · exact Paired.release paired
      · exact paired
  | link => exact paired.link
  | unlink => exact paired.unlink
  | release => exact paired.release

/-- The edges that a call leaves, for each call. -/
theorem relies_after {call : StoreCall} :
    (store.after call).Relies master slave ↔
      match call with
      | .link a b => master = a ∧ slave = b ∨ store.Relies master slave
      | .unlink a b => store.Relies master slave ∧ ¬(master = a ∧ slave = b)
      | .release a => store.Relies master slave ∧ master ≠ a
      | .remove a => store.Relies master slave ∧ ¬(master = a ∧ store.hasRecord a)
      | _ => store.Relies master slave := by
  cases call with
  | get at' => cases found : store.record? at' <;> simp [MemoryStore.after, answer, found]
  | has | masters | write => exact Iff.rfl
  | remove a =>
      rw [after_remove]
      by_cases present : store.hasRecord a = true
      · simp only [present, ↓reduceIte, relies_release, and_true]
        exact Iff.rfl
      · simp [present]
  | link => exact relies_link
  | unlink => exact relies_unlink
  | release => exact relies_release

theorem hasRecord_eq : store.hasRecord key = (store.record? key).isSome :=
  Std.ExtTreeMap.contains_eq_isSome_getElem?

theorem hasRecord_iff : store.hasRecord key = true ↔ ∃ record, store.record? key = some record := by
  rw [hasRecord_eq, Option.isSome_iff_exists]

/-- The records that a call leaves, for each call. -/
theorem record?_after {call : StoreCall} :
    (store.after call).record? key =
      match call with
      | .write a record => if a = key then some record else store.record? key
      | .remove a => if a = key then none else store.record? key
      | _ => store.record? key := by
  cases call with
  | get at' => cases found : store.record? at' <;> simp [MemoryStore.after, answer, found]
  | has | masters | link | unlink => rfl
  | write a record =>
      simp [MemoryStore.after, answer, MemoryStore.write, record?, Std.ExtTreeMap.getElem?_insert]
  | remove a =>
      rw [after_remove]
      by_cases present : store.hasRecord a = true
      · simp [present, release_snd, record?, Std.ExtTreeMap.getElem?_erase]
      · by_cases same : a = key
        · subst same
          have absent : store.record? a = none := by simpa [hasRecord_eq] using present
          simp [present, absent]
        · simp [present, same]
  | release => simp [MemoryStore.after, answer, release_snd, record?]

theorem hasRecord_after {call : StoreCall} (removes : call ≠ .remove key)
    (found : store.hasRecord key = true) : (store.after call).hasRecord key = true := by
  rw [hasRecord_eq] at found ⊢
  rw [record?_after]
  cases call with
  | write at' record =>
      dsimp only
      split
      · rfl
      · exact found
  | remove at' =>
      dsimp only
      rw [if_neg fun same => removes (by rw [same])]
      exact found
  | get | has | link | unlink | release | masters => exact found

end MemoryStore

namespace StoreCall

/-- The call only asks, and never changes the store. -/
def Reads : StoreCall → Prop
  | get _ | has _ | masters _ => True
  | write .. | remove _ | link .. | unlink .. | release _ => False

/-- All objects that the call names are known. -/
def Within (known : ObjectKey → Prop) : StoreCall → Prop
  | get key | has key | write key _ | remove key | release key | masters key => known key
  | link master slave | unlink master slave => known master ∧ known slave

theorem Reads.after {call : StoreCall} (reads : call.Reads) (store : MemoryStore) :
    store.after call = store := by
  cases call with
  | get key => cases found : store.record? key <;> simp [MemoryStore.after, MemoryStore.answer, found]
  | has | masters => rfl
  | write | remove | link | unlink | release => exact reads.elim

end StoreCall

/-- A call that is refused changes nothing. -/
theorem MemoryStore.after_of_refused {store : MemoryStore} {call : StoreCall} {cause : StoreError}
    (refused : (store.answer call).1 = .error cause) : store.after call = store := by
  cases call with
  | has key | get key | masters key => exact StoreCall.Reads.after (by trivial) store
  | remove key =>
      rw [after_remove]
      refine if_neg fun present => ?_
      simp [answer, remove?, present] at refused
  | write | link | unlink | release => simp [answer] at refused

end Provision
