import Mathlib.Data.List.ReduceOption
import Provision.Guard.Session
import Provision.Proofs.Guard.Accounts

/-! # One lock for each id

Guards are entered and given up in any order, and locks are taken and given back through them. The entry of
an id, and its lock with it, may go and come again any number of times. All the same the guards of an id that
are out at one time have one lock, which is the lock of no other id. So whoever holds that lock holds the id,
and writers are alone with it.
-/

namespace Provision

section Slots

variable {α : Type} {slots : List (Option α)} {slot other : Nat} {a : α}

theorem join_getElem?_concat : (slots ++ [some a])[slot]?.join =
    if slot = slots.length then some a else slots[slot]?.join := by
  split_ifs with last
  · simp [last]
  · rcases Nat.lt_or_gt_of_ne last with before | beyond
    · rw [List.getElem?_append_left before]
    · rw [List.getElem?_eq_none (by simp; omega), List.getElem?_eq_none (by omega)]

theorem join_getElem?_set_none : (slots.set slot none)[other]?.join =
    if slot = other then none else slots[other]?.join := by
  rw [List.getElem?_set]
  split_ifs <;> rfl

theorem mem_reduceOption_iff : a ∈ slots.reduceOption ↔ ∃ slot : Nat, slots[slot]?.join = some a := by
  rw [List.reduceOption_mem_iff, List.mem_iff_getElem?]
  simp only [Option.join_eq_some_iff]

/-- To empty a slot is to take out what is in it. -/
theorem reduceOption_eq_cons (found : slots[slot]?.join = some a) :
    (slots.reduceOption : Multiset α) = a ::ₘ (slots.set slot none).reduceOption := by
  induction slots generalizing slot with
  | nil => simp at found
  | cons first rest ih =>
      cases slot with
      | zero =>
          simp only [List.getElem?_cons_zero, Option.join_some] at found
          subst found
          rfl
      | succ slot =>
          have rest' : (rest.reduceOption : Multiset α) = a ::ₘ (rest.set slot none).reduceOption :=
            ih (by simpa using found)
          cases first with
          | none => exact rest'
          | some b =>
              rw [List.set_cons_succ, List.reduceOption_cons_of_some, List.reduceOption_cons_of_some,
                ← Multiset.cons_coe, ← Multiset.cons_coe, rest', Multiset.cons_swap]

end Slots

/-- One thing done with the guards and locks of a table. -/
inductive GuardStep where
  | enter (id : String)
  /-- Gives up a guard, or drops it. -/
  | exit (slot : Nat)
  /-- Takes the lock of a guard if it can be had now. To wait for it is to take it later. -/
  | acquire (slot : Nat) (mode : LockMode)
  | unlock (slot : Nat)
  deriving DecidableEq, Repr

namespace GuardSession

/-- What a step leaves. -/
def perform (session : GuardSession) : GuardStep → GuardSession
  | .enter id => (session.enter id).2
  | .exit slot => (session.exit slot).2
  | .acquire slot mode => (session.acquire slot mode).2
  | .unlock slot => (session.unlock slot).2

/-- What steps leave that are made one after the other from the start. -/
def after (steps : List GuardStep) : GuardSession := steps.foldl perform {}

/-- The lock in a slot, with the slot of its guard. -/
def lock? (session : GuardSession) (slot : Nat) : Option (Nat × Hold) := session.locks[slot]?.join

/-- The lock in a slot is held, in a mode, through a guard of an id that is out. -/
def Holder (session : GuardSession) (id : String) (slot : Nat) (mode : LockMode) : Prop :=
  ∃ through hold guard, session.lock? slot = some (through, hold) ∧
    session.guard? through = some guard ∧ guard.id = id ∧ hold.mode = mode

/-- The guards that are out. -/
def outstanding (session : GuardSession) : Multiset Guard := session.guards.reduceOption

/-- The locks that are held. -/
def holds (session : GuardSession) : Multiset Hold :=
  (session.locks.reduceOption : Multiset (Nat × Hold)).map Prod.snd

/-- The table accounts for what is in the slots, and each lock is held through its guard. -/
structure Kept (session : GuardSession) : Prop where
  accounts : session.table.Accounts session.outstanding session.holds
  guarded : ∀ slot through hold, session.lock? slot = some (through, hold) →
    ∃ guard, session.guard? through = some guard ∧ guard.lock = hold.lock

variable {session : GuardSession} {id : String} {slot other through lock : Nat} {guard : Guard} {hold : Hold}
  {mode : LockMode}

theorem holdsThrough_eq_true_iff : session.holdsThrough slot = true ↔
    ∃ lock hold, session.lock? lock = some (slot, hold) := by
  simp only [holdsThrough, List.any_eq_true, List.mem_iff_getElem?, lock?, Option.join_eq_some_iff]
  constructor
  · rintro ⟨entry, ⟨lock, found⟩, held⟩
    cases entry with
    | none => cases held
    | some both =>
        obtain ⟨through, hold⟩ := both
        cases eq_of_beq held
        exact ⟨lock, hold, found⟩
  · rintro ⟨lock, hold, found⟩
    exact ⟨_, ⟨lock, found⟩, by simp⟩

/-! ## What the steps do to the slots -/

theorem guard?_enter : (session.enter id).2.guard? slot =
    if slot = (session.enter id).1 then some (session.table.enter id).1 else session.guard? slot :=
  join_getElem?_concat

/-- The slot that a new guard is put in was empty. -/
theorem guard?_enter_fst : session.guard? (session.enter id).1 = none := by
  simp [guard?, enter]

@[simp] theorem lock?_enter : (session.enter id).2.lock? slot = session.lock? slot := rfl

/-- A guard can be given up unless a lock is held through it. -/
theorem exit_fst_eq_exited_iff : (session.exit slot).1 = .exited ↔
    (∃ guard, session.guard? slot = some guard) ∧ ∀ lock hold, session.lock? lock ≠ some (slot, hold) := by
  simp only [ne_eq, ← not_exists]
  rw [← holdsThrough_eq_true_iff, exit]
  split
  next none' => simp [none']
  next guard out => cases held : session.holdsThrough slot <;> simp [out]

theorem guard?_exit : (session.exit slot).2.guard? other =
    if other = slot ∧ (session.exit slot).1 = .exited then none else session.guard? other := by
  rw [exit]
  split
  next => simp
  next =>
    split
    next => simp
    next =>
      simp only [and_true, eq_comm (a := other)]
      exact join_getElem?_set_none

@[simp] theorem lock?_exit : (session.exit slot).2.lock? other = session.lock? other := by
  rw [exit]
  repeat' split
  all_goals rfl

@[simp] theorem guards_acquire : (session.acquire slot mode).2.guards = session.guards := by
  rw [acquire]
  repeat' split
  all_goals rfl

@[simp] theorem guard?_acquire : (session.acquire slot mode).2.guard? other = session.guard? other := by
  rw [guard?, guards_acquire, guard?]

theorem lock?_acquire : (session.acquire slot mode).2.lock? other =
    if (session.acquire slot mode).1 = .granted other mode then
      (session.guard? slot).map fun guard => (slot, ⟨guard.lock, mode⟩)
    else session.lock? other := by
  cases out : session.guard? slot with
  | none => simp [acquire, out]
  | some guard =>
      cases taken : session.table.acquire? guard mode with
      | none => simp [acquire, out, taken]
      | some both =>
          obtain ⟨hold, table⟩ := both
          obtain ⟨rfl, -⟩ := GuardTable.acquire?_eq_some taken
          simp only [acquire, out, taken, AcquireReply.granted.injEq, and_true, Option.map_some, eq_comm (b := other)]
          exact join_getElem?_concat

@[simp] theorem guards_unlock : (session.unlock slot).2.guards = session.guards := by
  rw [unlock]
  split <;> rfl

@[simp] theorem guard?_unlock : (session.unlock slot).2.guard? other = session.guard? other := by
  rw [guard?, guards_unlock, guard?]

theorem unlock_fst_eq_true_iff : (session.unlock slot).1 = true ↔
    ∃ through hold, session.lock? slot = some (through, hold) := by
  rw [unlock, lock?]
  cases session.locks[slot]?.join with
  | none => simp
  | some held =>
      obtain ⟨through, hold⟩ := held
      simp

theorem lock?_unlock : (session.unlock slot).2.lock? other =
    if other = slot then none else session.lock? other := by
  rw [unlock]
  split
  next none' =>
    split_ifs with same
    · rw [same, lock?, none']
    · rfl
  next =>
    simp only [eq_comm (a := other)]
    exact join_getElem?_set_none

/-! ## What is kept -/

theorem mem_outstanding (found : session.guard? slot = some guard) : guard ∈ session.outstanding :=
  mem_reduceOption_iff.mpr ⟨slot, found⟩

theorem outstanding_enter (id : String) : (session.enter id).2.outstanding =
    (session.table.enter id).1 ::ₘ session.outstanding := by
  simp only [outstanding, enter, List.reduceOption_append, ← Multiset.coe_add]
  exact Multiset.add_comm _ _

theorem mem_holds_iff :
    hold ∈ session.holds ↔ ∃ slot through, session.lock? slot = some (through, hold) := by
  simp only [holds, Multiset.mem_map, Multiset.mem_coe, mem_reduceOption_iff, lock?]
  constructor
  · rintro ⟨⟨through, hold⟩, ⟨slot, found⟩, rfl⟩
    exact ⟨slot, through, found⟩
  · rintro ⟨slot, through, found⟩
    exact ⟨_, ⟨slot, found⟩, rfl⟩

theorem holds_eq_cons (found : session.lock? slot = some (through, hold)) :
    session.holds = hold ::ₘ holds { session with locks := session.locks.set slot none } := by
  rw [holds, reduceOption_eq_cons found, Multiset.map_cons]
  rfl

theorem kept_start : Kept {} where
  accounts := GuardTable.accounts_empty
  guarded slot through hold found := by simp [lock?] at found

namespace Kept

theorem enter (kept : session.Kept) (id : String) : (session.enter id).2.Kept where
  accounts := by
    rw [outstanding_enter]
    exact kept.accounts.enter id
  guarded slot through hold found := by
    obtain ⟨guard, out, same⟩ := kept.guarded slot through hold found
    have known : through ≠ (session.enter id).1 := by
      rintro rfl
      rw [guard?_enter_fst] at out
      cases out
    exact ⟨guard, by rw [guard?_enter, if_neg known, out], same⟩

theorem exit (kept : session.Kept) (slot : Nat) : (session.exit slot).2.Kept where
  accounts := by
    rw [GuardSession.exit]
    split
    next => exact kept.accounts
    next guard out =>
      split
      next => exact kept.accounts
      next =>
        have one := kept.accounts
        rw [outstanding, reduceOption_eq_cons out] at one
        obtain ⟨left, exits, accounts⟩ := one.exit
        rw [exits]
        exact accounts
  guarded lock through hold found := by
    rw [lock?_exit] at found
    obtain ⟨guard, out, same⟩ := kept.guarded lock through hold found
    have stays : ¬(through = slot ∧ (session.exit slot).1 = .exited) := by
      rintro ⟨rfl, exited⟩
      exact (exit_fst_eq_exited_iff.mp exited).2 lock hold found
    exact ⟨guard, by rw [guard?_exit, if_neg stays, out], same⟩

theorem acquire (kept : session.Kept) (slot : Nat) (mode : LockMode) :
    (session.acquire slot mode).2.Kept where
  accounts := by
    rw [GuardSession.acquire]
    split
    next => exact kept.accounts
    next guard out =>
      split
      next => exact kept.accounts
      next hold table taken =>
        obtain ⟨rfl, accounts⟩ := kept.accounts.acquire (mem_outstanding out) taken
        have more : holds { session with table, locks := session.locks ++ [some (slot, ⟨guard.lock, mode⟩)] } =
            ⟨guard.lock, mode⟩ ::ₘ session.holds := by
          simp only [holds, List.reduceOption_append, ← Multiset.coe_add, Multiset.map_add]
          exact Multiset.add_comm _ _
        rw [more]
        exact accounts
  guarded lock through hold found := by
    rw [lock?_acquire] at found
    simp only [guard?_acquire]
    split_ifs at found
    · obtain ⟨guard, out, same⟩ := Option.map_eq_some_iff.mp found
      cases same
      exact ⟨guard, out, rfl⟩
    · exact kept.guarded lock through hold found

theorem unlock (kept : session.Kept) (slot : Nat) : (session.unlock slot).2.Kept where
  accounts := by
    rw [GuardSession.unlock]
    split
    next => exact kept.accounts
    next through hold held =>
      have one := kept.accounts
      rw [holds_eq_cons held] at one
      exact one.release
  guarded lock through hold found := by
    rw [lock?_unlock] at found
    simp only [guard?_unlock]
    split_ifs at found
    exact kept.guarded lock through hold found

theorem perform (kept : session.Kept) (step : GuardStep) : (session.perform step).Kept := by
  cases step with
  | enter id => exact kept.enter id
  | exit slot => exact kept.exit slot
  | acquire slot mode => exact kept.acquire slot mode
  | unlock slot => exact kept.unlock slot

theorem after (steps : List GuardStep) : (after steps).Kept := by
  have run : ∀ {session : GuardSession}, session.Kept → (steps.foldl GuardSession.perform session).Kept := by
    induction steps with
    | nil => exact id
    | cons step steps ih => exact fun kept => ih (kept.perform step)
  exact run kept_start

/-- The lock of a guard is held in a mode just if it is held so through some guard of the id. -/
theorem exists_holder_iff (kept : session.Kept) (out : session.guard? slot = some guard) :
    (∃ lock, session.Holder guard.id lock mode) ↔ ⟨guard.lock, mode⟩ ∈ session.holds := by
  have member := mem_outstanding out
  rw [mem_holds_iff]
  constructor
  · rintro ⟨lock, through, hold, guard', held, out', same, rfl⟩
    obtain ⟨guard'', again, known⟩ := kept.guarded lock through hold held
    rw [out'] at again
    cases again
    have one := (kept.accounts.lock_eq_iff (mem_outstanding out') member).mpr same
    exact ⟨lock, through, by rw [← one, known]; exact held⟩
  · rintro ⟨lock, through, held⟩
    obtain ⟨guard', out', known⟩ := kept.guarded lock through _ held
    have one := (kept.accounts.lock_eq_iff (mem_outstanding out') member).mp known
    exact ⟨lock, through, _, guard', held, out', one, rfl⟩

theorem granted_iff (kept : session.Kept) (out : session.guard? slot = some guard) :
    (session.acquire slot mode).1 = .granted session.locks.length mode ↔
      (¬∃ lock, session.Holder guard.id lock .exclusive) ∧
        (mode = .exclusive → ¬∃ lock, session.Holder guard.id lock .shared) := by
  rw [kept.exists_holder_iff out, kept.exists_holder_iff out, ← kept.accounts.acquire?_isSome_iff,
    GuardSession.acquire, out]
  dsimp only
  cases session.table.acquire? guard mode <;> simp

theorem alone (kept : session.Kept) {id : String} {slot' : Nat}
    (writer : session.Holder id slot .exclusive) (holder : session.Holder id slot' mode) :
    slot' = slot := by
  obtain ⟨through, ⟨lock, _⟩, guard, held, out, rfl, rfl⟩ := writer
  obtain ⟨through', hold, guard', held', out', same, rfl⟩ := holder
  have one : hold.lock = lock := by
    obtain ⟨_, again, own⟩ := kept.guarded _ _ _ held
    obtain ⟨_, again', own'⟩ := kept.guarded _ _ _ held'
    cases out.symm.trans again
    cases out'.symm.trans again'
    have equal := (kept.accounts.lock_eq_iff (mem_outstanding out') (mem_outstanding out)).mpr same
    exact own'.symm.trans (equal.trans own)
  by_contra other
  have rest : lock? { session with locks := session.locks.set slot none } slot' = some (through', hold) := by
    rw [lock?, join_getElem?_set_none, if_neg (Ne.symm other)]
    exact held'
  have single := kept.accounts.alone lock (mem_holds_iff.mpr ⟨_, _, held⟩)
  rw [holds_eq_cons held, holds_eq_cons rest] at single
  have two := congrArg Multiset.card single
  simp [one] at two

end Kept

/-- To take a lock is to hold the id, or to change nothing. -/
theorem holder_or_busy (out : session.guard? slot = some guard) :
    (session.acquire slot mode).2.Holder guard.id session.locks.length mode ∨
      session.acquire slot mode = (.busy, session) := by
  cases taken : session.table.acquire? guard mode with
  | none => exact .inr (by simp [acquire, out, taken])
  | some both =>
      have granted : (session.acquire slot mode).1 = .granted session.locks.length mode := by
        simp [acquire, out, taken]
      have put : (session.acquire slot mode).2.lock? session.locks.length =
          some (slot, ⟨guard.lock, mode⟩) := by rw [lock?_acquire, if_pos granted, out, Option.map_some]
      exact .inl ⟨slot, _, guard, put, guard?_acquire.trans out, rfl, rfl⟩

/-- What holds at every point in the life of a table. -/
structure Lawful (session : GuardSession) : Prop where
  /-- Guards have one lock just if they are for one id. -/
  identity : ∀ slot slot' guard guard', session.guard? slot = some guard →
    session.guard? slot' = some guard' → (guard.lock = guard'.lock ↔ guard.id = guard'.id)
  /-- Whoever holds a lock has a guard out that it is the lock of. -/
  guarded : ∀ slot through hold, session.lock? slot = some (through, hold) →
    ∃ guard, session.guard? through = some guard ∧ guard.lock = hold.lock
  /-- The writer side of a lock is had just if nobody holds the id. -/
  writes : ∀ slot guard, session.guard? slot = some guard →
    ((session.acquire slot .exclusive).1 = .granted session.locks.length .exclusive ↔
      ∀ holder mode, ¬session.Holder guard.id holder mode)
  /-- The reader side of a lock is had just if no writer holds the id. -/
  reads : ∀ slot guard, session.guard? slot = some guard →
    ((session.acquire slot .shared).1 = .granted session.locks.length .shared ↔
      ∀ holder, ¬session.Holder guard.id holder .exclusive)
  /-- Whoever had a lock holds the id, and whoever did not changed nothing. -/
  held : ∀ slot guard mode, session.guard? slot = some guard →
    (session.acquire slot mode).2.Holder guard.id session.locks.length mode ∨
      session.acquire slot mode = (.busy, session)
  /-- A writer is the only holder of its id. -/
  alone : ∀ id writer holder mode, session.Holder id writer .exclusive →
    session.Holder id holder mode → holder = writer
  /-- A guard that is entered is a guard of the id, in a slot that was empty. -/
  enters : ∀ id, session.guard? (session.enter id).1 = none ∧ ∃ guard, guard.id = id ∧
    ∀ slot, (session.enter id).2.guard? slot =
        (if slot = (session.enter id).1 then some guard else session.guard? slot) ∧
      (session.enter id).2.lock? slot = session.lock? slot
  /-- A guard can be given up just if no lock is held through it; that empties its slot. -/
  exits : ∀ slot,
    ((session.exit slot).1 = .exited ↔ (∃ guard, session.guard? slot = some guard) ∧
      ∀ lock hold, session.lock? lock ≠ some (slot, hold)) ∧
    ∀ other, (session.exit slot).2.guard? other =
        (if other = slot ∧ (session.exit slot).1 = .exited then none else session.guard? other) ∧
      (session.exit slot).2.lock? other = session.lock? other
  /-- A lock that is had is put in the slot that is told, with the slot of its guard. -/
  takes : ∀ slot mode other,
    (session.acquire slot mode).2.guard? other = session.guard? other ∧
    (session.acquire slot mode).2.lock? other =
      if (session.acquire slot mode).1 = .granted other mode then
        (session.guard? slot).map fun guard => (slot, ⟨guard.lock, mode⟩)
      else session.lock? other
  /-- To give up a lock is to empty its slot, and tells whether a lock was in it. -/
  unlocks : ∀ slot,
    ((session.unlock slot).1 = true ↔ ∃ through hold, session.lock? slot = some (through, hold)) ∧
    ∀ other, (session.unlock slot).2.guard? other = session.guard? other ∧
      (session.unlock slot).2.lock? other = if other = slot then none else session.lock? other

/-- Whatever steps are made from the start, at every point the guards of an id have one lock, which no other
    id has, and writers exclude everybody else. What is out and what is held is in the slots, of which each
    step changes its own only. -/
theorem after_lawful (steps : List GuardStep) : (after steps).Lawful := by
  have kept := Kept.after steps
  generalize GuardSession.after steps = session at kept
  constructor
  · intro slot slot' guard guard' out out'
    exact kept.accounts.lock_eq_iff (mem_outstanding out) (mem_outstanding out')
  · exact kept.guarded
  · intro slot guard out
    rw [kept.granted_iff out]
    constructor
    · rintro ⟨unwritten, unread⟩ holder (_ | _) held
      · exact unread rfl ⟨holder, held⟩
      · exact unwritten ⟨holder, held⟩
    · intro free
      exact ⟨fun ⟨holder, held⟩ => free _ _ held, fun _ ⟨holder, held⟩ => free _ _ held⟩
  · intro slot guard out
    simp [kept.granted_iff out]
  · exact fun slot guard mode => holder_or_busy
  · intro id writer holder mode written held
    exact kept.alone written held
  · intro id
    exact ⟨guard?_enter_fst, _, congrArg Guard.id GuardTable.enter_fst, fun slot => ⟨guard?_enter, lock?_enter⟩⟩
  · exact fun slot => ⟨exit_fst_eq_exited_iff, fun other => ⟨guard?_exit, lock?_exit⟩⟩
  · exact fun slot mode other => ⟨guard?_acquire, lock?_acquire⟩
  · exact fun slot => ⟨unlock_fst_eq_true_iff, fun other => ⟨guard?_unlock, lock?_unlock⟩⟩

end GuardSession

end Provision
