import Mathlib.Data.Finset.Card
import Provision.Proofs.Guard.OneLock

/-! # A table counts the guards that are out

Guards are entered and given up in any order. At every point the table has counted, for each id, how many
guards of it have been entered and not been given up, and it has an entry for those ids only of which there
is one. So a guard that is out can always be given up, and the table is empty again once all are.
-/

namespace Provision

namespace GuardTable.Accounts

variable {table : GuardTable} {guards : Multiset Guard} {holds : Multiset Hold} {guard : Guard}

theorem contains_iff (accounts : table.Accounts guards holds) (id : String) :
    table.contains id = true ↔ 0 < guards.countP fun guard => guard.id = id := by
  rw [← accounts.counted, GuardTable.contains, Std.ExtTreeMap.contains_eq_isSome_getElem?, refCount]
  cases found : table.entries[id]? with
  | none => simp
  | some entry => simpa using Nat.succ_le_iff.mp (accounts.sound.counted id entry found)

theorem keys_eq (accounts : table.Accounts guards holds) :
    table.entries.keys.toFinset = (guards.map Guard.id).toFinset := by
  ext id
  have counts := accounts.contains_iff id
  rw [GuardTable.contains, Std.ExtTreeMap.contains_iff_mem, Multiset.countP_pos] at counts
  rw [List.mem_toFinset, Std.ExtTreeMap.mem_keys, counts, Multiset.mem_toFinset, Multiset.mem_map]

theorem size_eq (accounts : table.Accounts guards holds) :
    table.size = (guards.map Guard.id).toFinset.card := by
  have distinct : table.entries.keys.Nodup :=
    Std.ExtTreeMap.distinct_keys.imp fun {a b} apart same =>
      apart (Std.compare_eq_iff_eq.mpr same)
  rw [← accounts.keys_eq, List.toFinset_card_of_nodup distinct, Std.ExtTreeMap.length_keys]
  rfl

theorem isEmpty_iff (accounts : table.Accounts guards holds) : table.isEmpty = true ↔ guards = 0 := by
  rw [GuardTable.isEmpty, Std.ExtTreeMap.isEmpty_eq_size_beq_zero, beq_iff_eq]
  change table.size = 0 ↔ _
  rw [accounts.size_eq, Finset.card_eq_zero, Multiset.toFinset_eq_empty, Multiset.map_eq_zero]

/-- A guard that is given up is counted once less, and no other one is. -/
theorem exit_counts (accounts : table.Accounts (guard ::ₘ guards) holds) :
    ∃ left, table.exit? guard.id = some left ∧
      ∀ id, left.refCount id + (if guard.id = id then 1 else 0) = table.refCount id := by
  obtain ⟨left, exits, after⟩ := accounts.exit
  refine ⟨left, exits, fun id => ?_⟩
  rw [after.counted, accounts.counted, Multiset.countP_cons]

end GuardTable.Accounts

namespace GuardSession

/-- Number of guards of an id that are out. -/
def live (session : GuardSession) (id : String) : Nat :=
  session.outstanding.countP fun guard => guard.id = id

/-- The id of the guard that a step gives up. -/
def gives? (session : GuardSession) : GuardStep → Option String
  | .exit slot =>
    if (session.exit slot).1 = .exited then (session.guard? slot).map Guard.id else none
  | .enter _ | .acquire .. | .unlock _ => none

/-- How many guards of an id are given up in steps that are made one after the other. -/
def givenUp (id : String) : GuardSession → List GuardStep → Nat
  | _, [] => 0
  | session, step :: steps =>
    (if session.gives? step = some id then 1 else 0) + givenUp id (session.perform step) steps

variable {session : GuardSession} {slot : Nat}

theorem outstanding_eq_zero_iff : session.outstanding = 0 ↔ ∀ id, session.live id = 0 := by
  simp only [live, Multiset.countP_eq_zero, Multiset.eq_zero_iff_forall_notMem]
  constructor
  · exact fun none' id guard member => absurd member (none' guard)
  · exact fun none' guard member => none' guard.id guard member rfl

theorem live_exit (id : String) : (session.exit slot).2.live id +
    (if session.gives? (.exit slot) = some id then 1 else 0) = session.live id := by
  rw [gives?, GuardSession.exit]
  split
  next none' => simp
  next guard out =>
    split
    next => simp
    next =>
      simp only [↓reduceIte, out, Option.map_some, Option.some.injEq, live, outstanding]
      rw [reduceOption_eq_cons out, Multiset.countP_cons]

/-- A step adds the guard that it enters to those that are out, and takes away the one that it gives up. -/
theorem live_perform (session : GuardSession) (step : GuardStep) (id : String) :
    (session.perform step).live id + (if session.gives? step = some id then 1 else 0) =
      session.live id + (if step = .enter id then 1 else 0) := by
  cases step with
  | enter id' =>
      rw [perform, live, outstanding_enter, Multiset.countP_cons, GuardTable.enter_fst]
      simp [gives?, live]
  | exit slot => simpa [perform] using live_exit id
  | acquire slot mode => simp [perform, gives?, live, outstanding]
  | unlock slot => simp [perform, gives?, live, outstanding]

theorem live_foldl (session : GuardSession) (steps : List GuardStep) (id : String) :
    (steps.foldl perform session).live id + givenUp id session steps =
      session.live id + steps.count (.enter id) := by
  induction steps generalizing session with
  | nil => simp [givenUp]
  | cons step steps ih =>
      have one := live_perform session step id
      have rest := ih (session.perform step)
      rw [List.foldl_cons, givenUp, List.count_cons]
      simp only [beq_iff_eq]
      omega

/-- The guards that have been entered in some steps and are not given up, and what the table tells of
    them. -/
structure Counts (steps : List GuardStep) (session : GuardSession) : Prop where
  /-- What is out has been entered and has not been given up. -/
  live : ∀ id, session.live id + givenUp id {} steps = steps.count (.enter id)
  refCount : ∀ id, session.table.refCount id = session.live id
  contains : ∀ id, session.table.contains id = true ↔ 0 < session.live id
  /-- The ids are counted once each. -/
  size : session.table.size = (session.outstanding.map Guard.id).toFinset.card
  isEmpty : session.table.isEmpty = true ↔ ∀ slot, session.guard? slot = none
  /-- A guard that is out can be given up, and the count of its id goes down by one. -/
  exits : ∀ slot guard, session.guard? slot = some guard → ∃ left,
    session.table.exit? guard.id = some left ∧
    (∀ id, left.refCount id + (if guard.id = id then 1 else 0) = session.table.refCount id) ∧
    (session.holdsThrough slot = false → session.exit slot =
      (.exited, { session with table := left, guards := session.guards.set slot none }))
  /-- The table is empty just if of each id as many guards have been given up as entered. -/
  balanced : session.table.isEmpty = true ↔ ∀ id, givenUp id {} steps = steps.count (.enter id)

/-- Whatever steps are made from the start, at every point the table counts just the guards that are out. -/
theorem after_counts (steps : List GuardStep) : (after steps).Counts steps := by
  have kept := Kept.after steps
  have entered : ∀ id, (after steps).live id + givenUp id {} steps = steps.count (.enter id) := by
    intro id
    have run := live_foldl {} steps id
    rwa [show GuardSession.live {} id = 0 from rfl, Nat.zero_add] at run
  generalize after steps = session at kept entered
  have counted := kept.accounts.counted
  refine ⟨entered, counted, kept.accounts.contains_iff, kept.accounts.size_eq, ?_,
    fun slot guard out => ?_, ?_⟩
  · rw [kept.accounts.isEmpty_iff, Multiset.eq_zero_iff_forall_notMem]
    simp only [outstanding, Multiset.mem_coe, mem_reduceOption_iff, not_exists,
      Option.eq_none_iff_forall_ne_some, guard?]
    exact forall_comm
  · have one := kept.accounts
    rw [outstanding, reduceOption_eq_cons out] at one
    obtain ⟨left, exits, lower⟩ := one.exit_counts
    refine ⟨left, exits, lower, fun unused => ?_⟩
    simp [GuardSession.exit, out, unused, exits]
  · rw [kept.accounts.isEmpty_iff, outstanding_eq_zero_iff]
    refine forall_congr' fun id => ?_
    have run := entered id
    omega

end GuardSession

end Provision
