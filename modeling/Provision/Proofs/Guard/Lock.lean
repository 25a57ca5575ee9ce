import Mathlib.Tactic.Tauto
import Provision.Guard.Table

/-! # Taking and leaving a lock

To take a lock is to enter the guard of its id and to acquire it, to leave it is to release it and
to exit the guard. Leaving gives back the very guards and holders that there were, if whatever was
done in between has given back its own.
-/

namespace Provision

@[simp] theorem LockState.admits_eq_true_iff {state : LockState} {mode : LockMode} :
    state.admits mode = true ↔ state = .free ∨ state = .shared ∧ mode = .shared := by
  cases state <;> cases mode <;> simp [LockState.admits, LockMode.isExclusive]

namespace GuardTable

/-- What every table that is reached keeps: an entry counts its guards, no lock is the lock of two
    ids, and no lock is held before it was made. -/
structure Sound (table : GuardTable) : Prop where
  counted : ∀ (id : String) (entry : GuardEntry), table.entries[id]? = some entry → 1 ≤ entry.count
  numbered : ∀ (id : String) (entry : GuardEntry), table.entries[id]? = some entry →
    entry.lock < table.nextLock
  known : ∀ hold ∈ table.holds, hold.lock < table.nextLock
  apart : ∀ (id id' : String) (entry entry' : GuardEntry), table.entries[id]? = some entry →
    table.entries[id']? = some entry' → entry.lock = entry'.lock → id = id'

theorem sound_empty : empty.Sound := by
  constructor <;> simp [empty]

/-- The same guards are out and the same locks are held. -/
structure Agrees (table other : GuardTable) : Prop where
  entries : other.entries = table.entries
  holds : other.holds = table.holds

theorem Agrees.refl (table : GuardTable) : table.Agrees table := ⟨rfl, rfl⟩

theorem Agrees.trans {a b c : GuardTable} (first : a.Agrees b) (second : b.Agrees c) :
    a.Agrees c :=
  ⟨second.entries.trans first.entries, second.holds.trans first.holds⟩

/-- The lock of an id is held in a mode. -/
def Holds (table : GuardTable) (id : String) (mode : LockMode) : Prop :=
  ∃ entry, table.entries[id]? = some entry ∧ ⟨entry.lock, mode⟩ ∈ table.holds

theorem Agrees.holds_iff {table other : GuardTable} (agrees : table.Agrees other) {id mode} :
    other.Holds id mode ↔ table.Holds id mode := by
  rw [Holds, Holds, agrees.entries, agrees.holds]

/-- Enters the guard of an id and takes its lock, if it can be had without waiting. -/
def take? (table : GuardTable) (id : String) (mode : LockMode) : Option (Hold × GuardTable) :=
  let (guard, entered) := table.enter id
  entered.acquire? guard mode

/-- Gives a lock back and exits the guard of its id. -/
def leave? (table : GuardTable) (id : String) (hold : Hold) : Option GuardTable :=
  (table.release hold).exit? id

/-- The lock that a guard of an id has or would get. -/
def lockOf (table : GuardTable) (id : String) : Nat :=
  (table.entries[id]?.map GuardEntry.lock).getD table.nextLock

variable {table other held : GuardTable} {id id' : String} {mode mode' : LockMode} {hold : Hold}

theorem enter_fst : (table.enter id).1 = ⟨id, table.lockOf id⟩ := by
  cases found : table.entries[id]? <;> simp [enter, lockOf, found]

theorem enter_entries : (table.enter id).2.entries =
    table.entries.insert id ⟨table.lockOf id, table.refCount id + 1⟩ := by
  cases found : table.entries[id]? <;> simp [enter, lockOf, refCount, found]

theorem enter_holds : (table.enter id).2.holds = table.holds := by
  cases found : table.entries[id]? <;> simp [enter, found]

theorem nextLock_le_enter : table.nextLock ≤ (table.enter id).2.nextLock := by
  cases found : table.entries[id]? <;> simp [enter, found]

theorem Sound.lockOf_lt (sound : table.Sound) : table.lockOf id < (table.enter id).2.nextLock := by
  cases found : table.entries[id]? with
  | none => simp [enter, lockOf, found]
  | some entry => simpa [enter, lockOf, found] using sound.numbered id entry found

/-- No other id has the lock that a guard of an id has or would get. -/
theorem Sound.lockOf_apart (sound : table.Sound) {entry : GuardEntry}
    (found : table.entries[id']? = some entry) (same : entry.lock = table.lockOf id) : id' = id := by
  cases known : table.entries[id]? with
  | none =>
      have below := sound.numbered id' entry found
      simp only [lockOf, known, Option.map_none, Option.getD_none] at same
      omega
  | some own =>
      simp only [lockOf, known, Option.map_some, Option.getD_some] at same
      exact sound.apart id' id entry own found known same

theorem Sound.enter (sound : table.Sound) (id : String) : (table.enter id).2.Sound := by
  have origin : ∀ {id' entry}, (table.enter id).2.entries[id']? = some entry →
      id = id' ∧ entry = ⟨table.lockOf id, table.refCount id + 1⟩ ∨
        id ≠ id' ∧ table.entries[id']? = some entry := by
    intro id' entry found
    simp only [enter_entries, Std.ExtTreeMap.getElem?_insert, Std.compare_eq_iff_eq] at found
    split at found
    next same => exact .inl ⟨same, (Option.some.inj found).symm⟩
    next different => exact .inr ⟨different, found⟩
  constructor
  · intro id' entry found
    rcases origin found with ⟨-, rfl⟩ | ⟨-, old⟩
    · exact Nat.le_add_left _ _
    · exact sound.counted id' entry old
  · intro id' entry found
    rcases origin found with ⟨-, rfl⟩ | ⟨-, old⟩
    · exact sound.lockOf_lt
    · exact Nat.lt_of_lt_of_le (sound.numbered id' entry old) nextLock_le_enter
  · intro hold member
    rw [enter_holds] at member
    exact Nat.lt_of_lt_of_le (sound.known hold member) nextLock_le_enter
  · intro id' id'' entry entry' found found' same
    rcases origin found with ⟨rfl, rfl⟩ | ⟨-, old⟩ <;>
      rcases origin found' with ⟨rfl, rfl⟩ | ⟨-, old'⟩
    · rfl
    · exact (sound.lockOf_apart old' same.symm).symm
    · exact sound.lockOf_apart old same
    · exact sound.apart id' id'' entry entry' old old' same

theorem lockState_admits_iff {lock : Nat} :
    (table.lockState lock).admits mode = true ↔
      ⟨lock, .exclusive⟩ ∉ table.holds ∧ (mode = .exclusive → ⟨lock, .shared⟩ ∉ table.holds) := by
  rw [LockState.admits_eq_true_iff, lockState]
  by_cases exclusive : ⟨lock, .exclusive⟩ ∈ table.holds
  · simp [exclusive]
  · by_cases shared : ⟨lock, .shared⟩ ∈ table.holds
    · cases mode <;> simp [exclusive, shared]
    · simp [exclusive, shared]

theorem take?_eq_some_iff : table.take? id mode = some (hold, held) ↔
    (table.lockState (table.lockOf id)).admits mode = true ∧ hold = ⟨table.lockOf id, mode⟩ ∧
      held = { (table.enter id).2 with holds := hold :: table.holds } := by
  have state : (table.enter id).2.lockState (table.lockOf id) =
      table.lockState (table.lockOf id) := by
    simp only [lockState, enter_holds]
  simp only [take?, acquire?, enter_fst, enter_holds, state]
  split
  · simp only [Option.some.injEq, Prod.mk.injEq, true_and, *]
    constructor
    · intro both
      obtain ⟨rfl, rfl⟩ := both
      exact ⟨rfl, rfl⟩
    · intro both
      obtain ⟨rfl, rfl⟩ := both
      exact ⟨rfl, rfl⟩
  · simp [*]

theorem holds_iff (sound : table.Sound) :
    table.Holds id mode ↔ ⟨table.lockOf id, mode⟩ ∈ table.holds := by
  cases found : table.entries[id]? with
  | none =>
      simp only [Holds, found, reduceCtorEq, false_and, exists_false, lockOf, Option.map_none,
        Option.getD_none, false_iff]
      intro member
      exact absurd (sound.known _ member) (Nat.lt_irrefl _)
  | some entry => simp [Holds, lockOf, found]

/-- A lock is had unless it is held exclusively, or held at all when it is wanted exclusively. -/
theorem take?_isSome_iff (sound : table.Sound) : (table.take? id mode).isSome ↔
    ¬table.Holds id .exclusive ∧ (mode = .exclusive → ¬table.Holds id .shared) := by
  rw [holds_iff sound, holds_iff sound, ← lockState_admits_iff, Option.isSome_iff_exists]
  constructor
  · intro both
    obtain ⟨⟨hold, held⟩, taken⟩ := both
    exact (take?_eq_some_iff.mp taken).1
  · exact fun admits => ⟨_, take?_eq_some_iff.mpr ⟨admits, rfl, rfl⟩⟩

theorem take?_isSome_of_free (sound : table.Sound) (free : table.holds = []) :
    (table.take? id mode).isSome = true := by
  have unheld : ∀ mode, ¬table.Holds id mode := by
    rintro mode ⟨entry, -, member⟩
    rw [free] at member
    cases member
  exact (take?_isSome_iff sound).mpr ⟨unheld .exclusive, fun _ => unheld .shared⟩

/-! ## While a lock is held -/

section Taken

variable (taken : table.take? id mode = some (hold, held))

include taken

theorem take?_entries : held.entries =
    table.entries.insert id ⟨table.lockOf id, table.refCount id + 1⟩ := by
  rw [(take?_eq_some_iff.mp taken).2.2, ← enter_entries]

theorem take?_getElem? : held.entries[id']? =
    if id = id' then some ⟨table.lockOf id, table.refCount id + 1⟩ else table.entries[id']? := by
  simp [take?_entries taken, Std.ExtTreeMap.getElem?_insert]

theorem take?_holds : held.holds = ⟨table.lockOf id, mode⟩ :: table.holds := by
  obtain ⟨-, rfl, rfl⟩ := take?_eq_some_iff.mp taken
  rfl

theorem take?_hold : hold = ⟨table.lockOf id, mode⟩ := (take?_eq_some_iff.mp taken).2.1

theorem holds_of_take? : held.Holds id mode :=
  ⟨⟨table.lockOf id, table.refCount id + 1⟩, by simp [take?_getElem? taken], by simp [take?_holds taken]⟩

/-- Who holds what, once a lock is taken. -/
theorem holds_take?_iff (sound : table.Sound) :
    held.Holds id' mode' ↔ id = id' ∧ mode = mode' ∨ table.Holds id' mode' := by
  by_cases same : id = id'
  · subst same
    simp only [Holds, take?_getElem? taken, ↓reduceIte, Option.some.injEq, exists_eq_left',
      take?_holds taken, List.mem_cons, Hold.mk.injEq, true_and, eq_comm (a := mode)]
    rw [← holds_iff sound, Holds]
  · simp only [Holds, take?_getElem? taken, same, ↓reduceIte, take?_holds taken, List.mem_cons,
      Hold.mk.injEq, false_and, false_or]
    refine exists_congr fun entry => and_congr_right fun found => or_iff_right fun both => ?_
    exact same (sound.lockOf_apart found both.1).symm

/-- No lock that is held is taken exclusively. -/
theorem not_holds_of_take?_exclusive (exclusive : mode = .exclusive) : ¬table.Holds id mode' := by
  intro both
  obtain ⟨entry, found, member⟩ := both
  obtain ⟨first, second⟩ := lockState_admits_iff.mp (take?_eq_some_iff.mp taken).1
  simp only [lockOf, found, Option.map_some, Option.getD_some] at first second
  cases mode' with
  | shared => exact second exclusive member
  | exclusive => exact first member

/-- Whoever takes the reader side of a lock keeps writers out. -/
theorem not_holds_exclusive_of_take?_shared (shared : mode = .shared) : ¬held.Holds id .exclusive := by
  subst shared
  intro both
  obtain ⟨entry, found, member⟩ := both
  simp only [take?_getElem? taken, ↓reduceIte, Option.some.injEq] at found
  subst found
  rw [take?_holds taken] at member
  rcases List.mem_cons.mp member with same | before
  · cases same
  · exact (lockState_admits_iff.mp (take?_eq_some_iff.mp taken).1).1 before

theorem Sound.take? (sound : table.Sound) : held.Sound := by
  obtain ⟨-, rfl, rfl⟩ := take?_eq_some_iff.mp taken
  have entered := sound.enter id
  refine ⟨entered.counted, entered.numbered, fun other member => ?_, entered.apart⟩
  rcases List.mem_cons.mp member with rfl | before
  · exact sound.lockOf_lt
  · exact entered.known other (enter_holds.symm ▸ before)

/-- Leaving a lock gives back the guards and the holders that there were before it was taken. -/
theorem leave?_take? (sound : table.Sound) (agrees : held.Agrees other) (after : other.Sound) :
    ∃ left, other.leave? id hold = some left ∧ table.Agrees left ∧ left.Sound := by
  have entry : other.entries[id]? = some ⟨table.lockOf id, table.refCount id + 1⟩ := by
    simp [agrees.entries, take?_getElem? taken]
  have erased : other.holds.erase hold = table.holds := by
    rw [agrees.holds, take?_holds taken, take?_hold taken, List.erase_cons_head]
  have found : ∃ left, other.leave? id hold = some left ∧ table.Agrees left ∧
      left.nextLock = other.nextLock := by
    simp only [leave?, exit?, release, entry, erased]
    cases known : table.entries[id]? with
    | none =>
        refine ⟨_, if_pos (by simp [refCount, known]), ⟨?_, rfl⟩, rfl⟩
        refine Std.ExtTreeMap.ext_getElem? fun key => ?_
        by_cases same : id = key
        · subst same
          simp [known]
        · simp [Std.ExtTreeMap.getElem?_erase, agrees.entries, take?_getElem? taken, same]
    | some own =>
        have positive := sound.counted id own known
        refine ⟨_, if_neg (by simpa [refCount, known] using Nat.pos_iff_ne_zero.mp positive),
          ⟨?_, rfl⟩, rfl⟩
        refine Std.ExtTreeMap.ext_getElem? fun key => ?_
        by_cases same : id = key
        · subst same
          simp [known, lockOf, refCount]
        · simp [Std.ExtTreeMap.getElem?_insert, agrees.entries, take?_getElem? taken, same]
  obtain ⟨left, leaves, back, next⟩ := found
  refine ⟨left, leaves, back, ?_⟩
  have kept : ∀ {id' : String} {known : GuardEntry}, table.entries[id']? = some known →
      ∃ later, other.entries[id']? = some later ∧ later.lock = known.lock := by
    intro id' known found
    by_cases same : id = id'
    · subst same
      exact ⟨_, entry, by simp [lockOf, found]⟩
    · exact ⟨known, by simpa [agrees.entries, take?_getElem? taken, same] using found, rfl⟩
  constructor
  · intro id' entry known
    exact sound.counted id' entry (back.entries ▸ known)
  · intro id' entry known
    obtain ⟨entry', found, same⟩ := kept (back.entries ▸ known)
    rw [next, ← same]
    exact after.numbered id' entry' found
  · intro one member
    rw [next]
    refine after.known one ?_
    rw [agrees.holds, take?_holds taken]
    exact List.mem_cons_of_mem _ (back.holds ▸ member)
  · intro id' id'' entry entry' known known' same
    exact sound.apart id' id'' entry entry' (back.entries ▸ known) (back.entries ▸ known') same

end Taken

end GuardTable

end Provision
