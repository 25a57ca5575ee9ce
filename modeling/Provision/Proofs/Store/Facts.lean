import Mathlib.Data.Finmap
import Provision.Proofs.Store.Search

/-! # The store as records and edges

Seen from outside, a store is a finite map from objects to records and a finite set of edges. The
ledger keeps the set twice, as maps of sets from both ends of an edge, but no request tells the
difference: each is answered, and changes the store, as the map and the set prescribe. The proof
is a simulation. One request keeps the two views in step, and so does a sequence of them.
-/

namespace Provision

/-! ## Requests -/

/-- What a store can be asked: what the engine calls for, and what it tells about itself. -/
inductive StoreRequest where
  | call (call : StoreCall)
  | isSlave (key : ObjectKey)
  | slavesOf (master : ObjectKey)
  | size
  | isEmpty

abbrev StoreRequest.Reply : StoreRequest → Type
  | .call asked => Except StoreError asked.Answer
  | isSlave _ | isEmpty => Bool
  | slavesOf _ => List ObjectKey
  | size => Nat

namespace MemoryStore

def reply (store : MemoryStore) : (request : StoreRequest) → request.Reply × MemoryStore
  | .call asked => store.answer asked
  | .isSlave key => (store.isSlave key, store)
  | .slavesOf master => (store.slavesOf master, store)
  | .size => (store.size, store)
  | .isEmpty => (store.isEmpty, store)

def afterAll (store : MemoryStore) (requests : List StoreRequest) : MemoryStore :=
  requests.foldl (fun store request => (store.reply request).2) store

end MemoryStore

/-! ## What is prescribed -/

/-- Records and edges, without regard to how they are kept. -/
structure Facts where
  records : Finmap fun _ : ObjectKey => Record
  edges : Finset (ObjectKey × ObjectKey)

namespace Facts

def empty : Facts := ⟨∅, ∅⟩

/-- The objects a master relies on. -/
def slaves (facts : Facts) (master : ObjectKey) : Finset ObjectKey :=
  (facts.edges.filter (·.1 = master)).image (·.2)

/-- The objects that rely on a slave. -/
def masters (facts : Facts) (slave : ObjectKey) : Finset ObjectKey :=
  (facts.edges.filter (·.2 = slave)).image (·.1)

def edgesWithout (facts : Facts) (master : ObjectKey) : Finset (ObjectKey × ObjectKey) :=
  facts.edges.filter (·.1 ≠ master)

def after (facts : Facts) : StoreRequest → Facts
  | .call (.write key record) => { facts with records := facts.records.insert key record }
  | .call (.remove key) =>
    if key ∈ facts.records then
      { records := facts.records.erase key, edges := facts.edgesWithout key }
    else facts
  | .call (.link master slave) => { facts with edges := insert (master, slave) facts.edges }
  | .call (.unlink master slave) => { facts with edges := facts.edges.erase (master, slave) }
  | .call (.release master) => { facts with edges := facts.edgesWithout master }
  | .call (.get _) | .call (.has _) | .call (.masters _) => facts
  | .isSlave _ | .slavesOf _ | .size | .isEmpty => facts

def afterAll (facts : Facts) (requests : List StoreRequest) : Facts := requests.foldl after facts

/-- A list has the members of a set, each of them once. -/
def Enumerates (list : List ObjectKey) (set : Finset ObjectKey) : Prop :=
  list.Nodup ∧ ∀ object, object ∈ list ↔ object ∈ set

/-- A list has the members of a set in key order. -/
def Sorts (list : List ObjectKey) (set : Finset ObjectKey) : Prop :=
  list.Pairwise (fun a b => ObjectKey.order a b = .lt) ∧ ∀ object, object ∈ list ↔ object ∈ set

/-- The facts call for this reply to a request. -/
def Prescribes (facts : Facts) : (request : StoreRequest) → request.Reply → Prop
  | .call (.get key), reply =>
    reply = match facts.records.lookup key with
      | some record => .ok record
      | none => .error (.notFound key)
  | .call (.has key), reply => reply = .ok (decide (key ∈ facts.records))
  | .call (.remove key), reply =>
    reply = if key ∈ facts.records then .ok () else .error (.notFound key)
  | .call (.write ..), reply | .call (.link ..), reply | .call (.unlink ..), reply => reply = .ok ()
  | .call (.release master), reply =>
    ∃ slaves, reply = .ok slaves ∧ Enumerates slaves (facts.slaves master)
  | .call (.masters slave), reply =>
    ∃ masters, reply = .ok masters ∧ Enumerates masters (facts.masters slave)
  | .isSlave key, reply => reply = decide (facts.masters key ≠ ∅)
  | .slavesOf master, reply => Sorts reply (facts.slaves master)
  | .size, reply => reply = facts.records.keys.card
  | .isEmpty, reply => (reply = true ↔ facts.records = ∅)

variable {facts : Facts} {master slave : ObjectKey}

@[simp] theorem mem_slaves : slave ∈ facts.slaves master ↔ (master, slave) ∈ facts.edges := by
  simp [slaves]

@[simp] theorem mem_masters : master ∈ facts.masters slave ↔ (master, slave) ∈ facts.edges := by
  simp [masters]

@[simp] theorem mem_edgesWithout {key : ObjectKey} :
    (master, slave) ∈ facts.edgesWithout key ↔ (master, slave) ∈ facts.edges ∧ master ≠ key := by
  simp [edgesWithout]

end Facts

/-! ## How the ledger is kept -/

namespace ObjectMap

/-- No empty set is kept. -/
def Pruned (map : ObjectMap ObjectSet) : Prop :=
  ∀ (key : ObjectKey) (set : ObjectSet), map[key]? = some set → set.isEmpty = false

variable {map : ObjectMap ObjectSet} {key object : ObjectKey}

theorem pruned_empty : Pruned ∅ := by
  simp [Pruned]

theorem Pruned.link (pruned : map.Pruned) : (ObjectMap.link map key object).Pruned := by
  intro k set found
  simp only [ObjectMap.link, Std.ExtTreeMap.getElem?_insert] at found
  split at found
  · cases found
    simp
  · exact pruned k set found

theorem Pruned.unlink (pruned : map.Pruned) : (ObjectMap.unlink map key object).Pruned := by
  intro k set found
  unfold ObjectMap.unlink at found
  split at found
  next => exact pruned k set found
  next kept atKey =>
    dsimp only at found
    split at found
    next =>
      rw [Std.ExtTreeMap.getElem?_erase] at found
      split at found
      · cases found
      · exact pruned k set found
    next left =>
      rw [Std.ExtTreeMap.getElem?_insert] at found
      split at found
      · cases found
        simpa using left
      · exact pruned k set found

end ObjectMap

namespace MemoryStore

/-- The ledger keeps each edge from both its ends, and no empty set. -/
structure Tidy (store : MemoryStore) : Prop where
  paired : store.Paired
  slaves : store.slaves.Pruned
  masters : store.masters.Pruned

variable {store : MemoryStore} {facts : Facts} {master slave key : ObjectKey}

theorem tidy_empty : empty.Tidy := ⟨paired_empty, ObjectMap.pruned_empty, ObjectMap.pruned_empty⟩

theorem Tidy.unlinkAll (tidy : store.Tidy) {slaves : List ObjectKey} :
    (store.unlinkAll master slaves).Tidy := by
  induction slaves generalizing store with
  | nil => exact tidy
  | cons first rest ih => exact ih ⟨tidy.paired.unlink, tidy.slaves.unlink, tidy.masters.unlink⟩

theorem Tidy.after (tidy : store.Tidy) (call : StoreCall) : (store.after call).Tidy := by
  cases call with
  | get asked =>
      have reads : (StoreCall.get asked).Reads := trivial
      rwa [reads.after]
  | has | masters => exact tidy
  | write => exact ⟨tidy.paired, tidy.slaves, tidy.masters⟩
  | remove removed =>
      rw [after_remove]
      split
      · have kept : ({ store with records := store.records.erase removed } : MemoryStore).Tidy :=
          ⟨tidy.paired, tidy.slaves, tidy.masters⟩
        exact kept.unlinkAll
      · exact tidy
  | link => exact ⟨tidy.paired.link, tidy.slaves.link, tidy.masters.link⟩
  | unlink => exact ⟨tidy.paired.unlink, tidy.slaves.unlink, tidy.masters.unlink⟩
  | release => exact tidy.unlinkAll

theorem Tidy.reply (tidy : store.Tidy) (request : StoreRequest) : (store.reply request).2.Tidy := by
  cases request with
  | call call => exact tidy.after call
  | isSlave | slavesOf | size | isEmpty => exact tidy

theorem pairwise_slavesOf :
    (store.slavesOf master).Pairwise fun a b => ObjectKey.order a b = .lt := by
  unfold slavesOf
  cases store.slaves[master]? with
  | none => exact List.Pairwise.nil
  | some set => exact Std.ExtTreeSet.ordered_toList

theorem nodup_slavesOf : (store.slavesOf master).Nodup := by
  refine pairwise_slavesOf.imp fun {a b} before same => ?_
  rw [ObjectKey.order_eq_iff.mpr same] at before
  cases before

/-! ## The two views kept in step -/

/-- A store has just these records and edges. -/
structure Shows (store : MemoryStore) (facts : Facts) : Prop where
  record? : ∀ key, store.record? key = facts.records.lookup key
  relies : ∀ master slave, store.Relies master slave ↔ (master, slave) ∈ facts.edges

theorem shows_empty : empty.Shows .empty where
  record? key := by simp [MemoryStore.record?, empty, Facts.empty]
  relies master slave := by simp [not_relies_empty, Facts.empty]

namespace Shows

theorem hasRecord_iff (same : store.Shows facts) :
    store.hasRecord key = true ↔ key ∈ facts.records := by
  rw [hasRecord_eq, same.record?, Finmap.lookup_isSome]

theorem enumerates_slaves (same : store.Shows facts) :
    Facts.Enumerates (store.slavesOf master) (facts.slaves master) := by
  refine ⟨nodup_slavesOf, fun object => ?_⟩
  rw [mem_slavesOf, ← relies_iff, same.relies, Facts.mem_slaves]

theorem enumerates_masters (same : store.Shows facts) (paired : store.Paired) :
    Facts.Enumerates (store.mastersOf slave) (facts.masters slave) := by
  refine ⟨nodup_mastersOf slave, fun object => ?_⟩
  rw [paired.mem_mastersOf_iff, same.relies, Facts.mem_masters]

theorem keys_eq (same : store.Shows facts) : store.records.keys.toFinset = facts.records.keys := by
  ext key
  rw [List.mem_toFinset, Std.ExtTreeMap.mem_keys, Finmap.mem_keys, ← same.hasRecord_iff]
  exact Std.ExtTreeMap.contains_iff_mem.symm

theorem size_eq (same : store.Shows facts) : store.size = facts.records.keys.card := by
  have distinct : store.records.keys.Nodup :=
    Std.ExtTreeMap.distinct_keys.imp fun {a b} apart same =>
      apart (ObjectKey.order_eq_iff.mpr same)
  rw [← same.keys_eq, List.toFinset_card_of_nodup distinct, Std.ExtTreeMap.length_keys]
  rfl

theorem isEmpty_iff (same : store.Shows facts) : store.isEmpty = true ↔ facts.records = ∅ := by
  rw [isEmpty, Std.ExtTreeMap.isEmpty_eq_size_beq_zero, beq_iff_eq]
  change store.size = 0 ↔ _
  rw [same.size_eq, Finset.card_eq_zero]
  constructor
  · intro noKeys
    refine Finmap.ext_lookup fun key => ?_
    rw [Finmap.lookup_empty, Finmap.lookup_eq_none, ← Finmap.mem_keys, noKeys]
    exact Finset.notMem_empty key
  · intro nothing
    rw [nothing, Finmap.keys_empty]

theorem isSlave_eq (same : store.Shows facts) (paired : store.Paired) :
    store.isSlave slave = decide (facts.masters slave ≠ ∅) := by
  rw [isSlave, Bool.eq_iff_iff, decide_eq_true_iff, Bool.not_eq_true', List.isEmpty_eq_false_iff,
    not_iff_not, List.eq_nil_iff_forall_not_mem, Finset.eq_empty_iff_forall_notMem]
  exact forall_congr' fun object => not_congr ((same.enumerates_masters paired).2 object)

theorem after (same : store.Shows facts) (call : StoreCall) :
    (store.after call).Shows (facts.after (.call call)) where
  record? key := by
    rw [record?_after]
    cases call with
    | get | has | masters | link | unlink | release => exact same.record? key
    | write written record =>
        dsimp only [Facts.after]
        split
        next at' => rw [← at', Finmap.lookup_insert]
        next other => rw [Finmap.lookup_insert_of_ne _ (Ne.symm other), same.record?]
    | remove removed =>
        dsimp only [Facts.after]
        by_cases present : removed ∈ facts.records
        · simp only [present, ↓reduceIte]
          split
          next at' => rw [← at', Finmap.lookup_erase]
          next other => rw [Finmap.lookup_erase_ne (Ne.symm other), same.record?]
        · simp only [present, ↓reduceIte, same.record?]
          split
          next at' => rw [← at', Finmap.lookup_eq_none.mpr present]
          next => rfl
  relies master slave := by
    rw [relies_after]
    cases call with
    | get | has | masters | write => exact same.relies master slave
    | link | unlink | release => simp [Facts.after, same.relies, and_comm]
    | remove removed =>
        by_cases present : removed ∈ facts.records
        · simp [Facts.after, present, same.hasRecord_iff, same.relies]
        · simp [Facts.after, present, same.hasRecord_iff, same.relies]

theorem reply (same : store.Shows facts) (request : StoreRequest) :
    (store.reply request).2.Shows (facts.after request) := by
  cases request with
  | call call => exact same.after call
  | isSlave | slavesOf | size | isEmpty => exact same

/-- What a store replies is what its records and edges call for. -/
theorem prescribes (same : store.Shows facts) (paired : store.Paired) (request : StoreRequest) :
    facts.Prescribes request (store.reply request).1 := by
  cases request with
  | call call =>
      cases call with
      | get key =>
          simp only [Facts.Prescribes, MemoryStore.reply, answer, ← same.record?]
          cases store.record? key <;> rfl
      | has key =>
          refine congrArg Except.ok ?_
          rw [Bool.eq_iff_iff, decide_eq_true_iff, same.hasRecord_iff]
      | write | link | unlink => rfl
      | remove key =>
          simp only [Facts.Prescribes, MemoryStore.reply, answer, remove?, ← same.hasRecord_iff]
          by_cases present : store.hasRecord key = true <;> simp [present]
      | release master => exact ⟨_, rfl, same.enumerates_slaves⟩
      | masters slave => exact ⟨_, rfl, same.enumerates_masters paired⟩
  | isSlave key => exact same.isSlave_eq paired
  | slavesOf master => exact ⟨pairwise_slavesOf, same.enumerates_slaves.2⟩
  | size => exact same.size_eq
  | isEmpty => exact same.isEmpty_iff

end Shows

/-- A sequence of requests keeps the ledger tidy and the two views in step. -/
theorem shows_afterAll (tidy : store.Tidy) (same : store.Shows facts)
    (requests : List StoreRequest) :
    (store.afterAll requests).Tidy ∧ (store.afterAll requests).Shows (facts.afterAll requests) := by
  induction requests generalizing store facts with
  | nil => exact ⟨tidy, same⟩
  | cons request rest ih => exact ih (tidy.reply request) (same.reply request)

/-- After any requests to a store that was empty, each edge is kept from both its ends and no empty
    set is kept. The store then has just the records and edges that the same requests make of
    none, and replies to whatever is asked next as these prescribe. -/
theorem refines_facts (requests : List StoreRequest) :
    (empty.afterAll requests).Tidy ∧
      (empty.afterAll requests).Shows (Facts.empty.afterAll requests) ∧
      ∀ request, (Facts.empty.afterAll requests).Prescribes request
        ((empty.afterAll requests).reply request).1 := by
  obtain ⟨tidy, same⟩ := shows_afterAll tidy_empty shows_empty requests
  exact ⟨tidy, same, same.prescribes tidy.paired⟩

end MemoryStore

end Provision
