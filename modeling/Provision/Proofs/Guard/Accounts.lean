import Mathlib.Data.Multiset.Filter
import Provision.Proofs.Guard.Lock

/-! # What is out of a table

The guards that a table has given out and the locks that are held through them, in whatever order they
come and go. As long as a guard is out its id keeps its entry, and with it its lock; an entry goes when the
last guard of its id does. So two guards of one id never have different locks.
-/

namespace Provision.GuardTable

/-- A table and all that is out of it. -/
structure Accounts (table : GuardTable) (guards : Multiset Guard) (holds : Multiset Hold) : Prop where
  sound : table.Sound
  counted : ∀ id, table.refCount id = guards.countP fun guard => guard.id = id
  current : ∀ guard ∈ guards, ∃ entry, table.entries[guard.id]? = some entry ∧ entry.lock = guard.lock
  held : (table.holds : Multiset Hold) = holds
  alone : ∀ lock, ⟨lock, .exclusive⟩ ∈ holds →
    (holds.filter fun hold => hold.lock = lock) = {⟨lock, .exclusive⟩}

theorem accounts_empty : empty.Accounts 0 0 where
  sound := sound_empty
  counted id := by simp [refCount, empty]
  current := by simp
  held := rfl
  alone := by simp

variable {table left : GuardTable} {id : String} {entry : GuardEntry}

/-- A table that has lost entries, or guards of entries, is still sound. -/
theorem Sound.thinned (sound : table.Sound) (next : left.nextLock = table.nextLock)
    (holds : left.holds ⊆ table.holds)
    (fewer : ∀ (id : String) (entry : GuardEntry), left.entries[id]? = some entry →
      ∃ before : GuardEntry, table.entries[id]? = some before ∧ before.lock = entry.lock ∧ 1 ≤ entry.count) :
    left.Sound := by
  constructor
  · intro id entry known
    obtain ⟨-, -, -, positive⟩ := fewer id entry known
    exact positive
  · intro id entry known
    obtain ⟨before, was, same, -⟩ := fewer id entry known
    rw [next, ← same]
    exact sound.numbered id before was
  · intro hold member
    rw [next]
    exact sound.known hold (holds member)
  · intro id id' entry entry' known known' same
    obtain ⟨before, was, lock, -⟩ := fewer id entry known
    obtain ⟨before', was', lock', -⟩ := fewer id' entry' known'
    exact sound.apart id id' before before' was was' (lock.trans (same.trans lock'.symm))

theorem exit?_of_entry (found : table.entries[id]? = some entry) :
    ∃ left, table.exit? id = some left ∧ left.nextLock = table.nextLock ∧ left.holds = table.holds ∧
      ∀ id', left.entries[id']? = if id = id' then
          if entry.count ≤ 1 then none else some { entry with count := entry.count - 1 }
        else table.entries[id']? := by
  by_cases few : entry.count ≤ 1
  · refine ⟨{ table with entries := table.entries.erase id }, by simp [exit?, found, few], rfl, rfl, ?_⟩
    simp [Std.ExtTreeMap.getElem?_erase, few]
  · refine ⟨{ table with entries := table.entries.insert id { entry with count := entry.count - 1 } },
      by simp [exit?, found, few], rfl, rfl, ?_⟩
    simp [Std.ExtTreeMap.getElem?_insert, few]

theorem acquire?_eq_some {guard : Guard} {mode : LockMode} {hold : Hold}
    (taken : table.acquire? guard mode = some (hold, left)) :
    hold = ⟨guard.lock, mode⟩ ∧ left = { table with holds := ⟨guard.lock, mode⟩ :: table.holds } := by
  rw [acquire?] at taken
  split at taken <;> cases taken
  exact ⟨rfl, rfl⟩

namespace Accounts

variable {table next : GuardTable} {guards : Multiset Guard} {holds : Multiset Hold} {guard other : Guard}
  {hold : Hold} {id : String} {mode : LockMode}

theorem mem_holds_iff (accounts : table.Accounts guards holds) : hold ∈ table.holds ↔ hold ∈ holds := by
  rw [← accounts.held, Multiset.mem_coe]

theorem lockOf_eq (accounts : table.Accounts guards holds) (member : guard ∈ guards) :
    table.lockOf guard.id = guard.lock := by
  obtain ⟨entry, found, same⟩ := accounts.current guard member
  simp [lockOf, found, same]

/-- Guards have one lock just if they are for one id. -/
theorem lock_eq_iff (accounts : table.Accounts guards holds) (member : guard ∈ guards)
    (member' : other ∈ guards) : guard.lock = other.lock ↔ guard.id = other.id := by
  constructor
  · intro same
    obtain ⟨entry, found, lock⟩ := accounts.current guard member
    obtain ⟨entry', found', lock'⟩ := accounts.current other member'
    exact accounts.sound.apart _ _ entry entry' found found' (lock.trans (same.trans lock'.symm))
  · intro same
    rw [← accounts.lockOf_eq member, ← accounts.lockOf_eq member', same]

theorem enter (accounts : table.Accounts guards holds) (id : String) :
    (table.enter id).2.Accounts ((table.enter id).1 ::ₘ guards) holds where
  sound := accounts.sound.enter id
  counted id' := by
    rw [enter_fst, Multiset.countP_cons, ← accounts.counted, refCount, enter_entries,
      Std.ExtTreeMap.getElem?_insert]
    by_cases same : id = id'
    · subst same
      simp
    · simp [same, refCount]
  current guard member := by
    simp only [enter_entries, Std.ExtTreeMap.getElem?_insert, Std.compare_eq_iff_eq]
    rcases Multiset.mem_cons.mp member with rfl | member
    · simp [enter_fst]
    · by_cases same : id = guard.id
      · simpa [same] using accounts.lockOf_eq member
      · simpa [same] using accounts.current guard member
  held := by rw [enter_holds, accounts.held]
  alone := accounts.alone

/-- A guard that is out can be given up. -/
theorem exit (accounts : table.Accounts (guard ::ₘ guards) holds) :
    ∃ left, table.exit? guard.id = some left ∧ left.Accounts guards holds := by
  obtain ⟨entry, found, lock⟩ := accounts.current guard (Multiset.mem_cons_self guard guards)
  have count : entry.count = guards.countP (fun other => other.id = guard.id) + 1 := by
    simpa [refCount, found] using accounts.counted guard.id
  obtain ⟨left, exits, next, same, looked⟩ := exit?_of_entry found
  refine ⟨left, exits, ?_, fun id => ?_, fun other member => ?_, ?_, accounts.alone⟩
  · refine accounts.sound.thinned next (same ▸ List.Subset.refl _) fun id entry' known => ?_
    rw [looked] at known
    split_ifs at known with here few
    · cases known
      exact ⟨entry, here ▸ found, rfl, by dsimp only; omega⟩
    · exact ⟨entry', known, rfl, accounts.sound.counted id entry' known⟩
  · rw [refCount, looked]
    by_cases here : guard.id = id
    · subst here
      rw [if_pos rfl]
      split_ifs with few
      · exact (Nat.le_zero.mp (by omega)).symm
      · exact (Nat.sub_eq_iff_eq_add (by omega)).mpr count
    · rw [if_neg here, ← refCount, accounts.counted, Multiset.countP_cons, if_neg here, Nat.add_zero]
  · obtain ⟨entry', found', lock'⟩ := accounts.current other (Multiset.mem_cons_of_mem member)
    rw [looked]
    by_cases here : guard.id = other.id
    · -- The entry stays, for there is another guard of the id.
      have further : 0 < guards.countP fun other => other.id = guard.id :=
        Multiset.countP_pos.mpr ⟨other, member, here.symm⟩
      rw [← here, found] at found'
      cases found'
      rw [if_pos here, if_neg (by omega)]
      exact ⟨_, rfl, lock'⟩
    · rw [if_neg here]
      exact ⟨entry', found', lock'⟩
  · rw [same, accounts.held]

theorem acquire?_isSome_iff (accounts : table.Accounts guards holds) :
    (table.acquire? guard mode).isSome ↔ ⟨guard.lock, .exclusive⟩ ∉ holds ∧
      (mode = .exclusive → ⟨guard.lock, .shared⟩ ∉ holds) := by
  rw [← accounts.mem_holds_iff, ← accounts.mem_holds_iff, ← lockState_admits_iff, acquire?]
  split <;> simp [*]

/-- A lock that is taken was not held exclusively, and not at all if it is taken exclusively. -/
theorem acquire (accounts : table.Accounts guards holds) (member : guard ∈ guards)
    (taken : table.acquire? guard mode = some (hold, next)) :
    hold = ⟨guard.lock, mode⟩ ∧ next.Accounts guards (hold ::ₘ holds) := by
  have some' : (table.acquire? guard mode).isSome := by simp [taken]
  obtain ⟨unwritten, unread⟩ := accounts.acquire?_isSome_iff.mp some'
  obtain ⟨rfl, rfl⟩ := acquire?_eq_some taken
  refine ⟨rfl, ?_, accounts.counted, accounts.current, ?_, ?_⟩
  · obtain ⟨entry, found, lock⟩ := accounts.current guard member
    refine ⟨accounts.sound.counted, accounts.sound.numbered, fun hold known => ?_,
      accounts.sound.apart⟩
    rcases List.mem_cons.mp known with rfl | known
    · exact lock ▸ accounts.sound.numbered _ _ found
    · exact accounts.sound.known hold known
  · rw [← accounts.held]
    rfl
  · intro lock written
    rcases Multiset.mem_cons.mp written with same | written
    · -- A writer comes in only where the lock is not held at all.
      obtain ⟨rfl, rfl⟩ := Hold.mk.inj same
      have free : (holds.filter fun hold => hold.lock = guard.lock) = 0 := by
        rw [Multiset.filter_eq_nil]
        rintro ⟨lock, side⟩ known rfl
        cases side with
        | exclusive => exact unwritten known
        | shared => exact unread rfl known
      simp [free]
    · have different : guard.lock ≠ lock := by
        rintro rfl
        exact unwritten written
      rw [Multiset.filter_cons_of_neg (p := fun hold : Hold => hold.lock = lock) holds different]
      exact accounts.alone lock written

theorem release (accounts : table.Accounts guards (hold ::ₘ holds)) :
    (table.release hold).Accounts guards holds where
  sound := ⟨accounts.sound.counted, accounts.sound.numbered,
    fun other member => accounts.sound.known other (List.mem_of_mem_erase member), accounts.sound.apart⟩
  counted := accounts.counted
  current := accounts.current
  held := by
    rw [GuardTable.release, ← Multiset.coe_erase, accounts.held, Multiset.erase_cons_head]
  alone lock written := by
    have single := accounts.alone lock (Multiset.mem_cons_of_mem written)
    have known : ⟨lock, .exclusive⟩ ∈ holds.filter fun hold => hold.lock = lock :=
      Multiset.mem_filter.mpr ⟨written, rfl⟩
    by_cases same : hold.lock = lock
    · rw [Multiset.filter_cons_of_pos (p := fun hold : Hold => hold.lock = lock) holds same] at single
      have none' := Multiset.cons_eq_cons.mp (single.trans (Multiset.cons_zero _).symm)
      rcases none' with ⟨-, none'⟩ | ⟨-, rest, -, none'⟩
      · rw [none'] at known
        cases known
      · simp at none'
    · rwa [Multiset.filter_cons_of_neg (p := fun hold : Hold => hold.lock = lock) holds same] at single

theorem take (accounts : table.Accounts guards holds) (taken : table.take? id mode = some (hold, next)) :
    next.Accounts (⟨id, hold.lock⟩ ::ₘ guards) (hold ::ₘ holds) := by
  obtain ⟨rfl, after⟩ := (accounts.enter id).acquire (Multiset.mem_cons_self _ _) taken
  rwa [enter_fst] at after ⊢

theorem leave (accounts : table.Accounts (⟨id, hold.lock⟩ ::ₘ guards) (hold ::ₘ holds)) :
    ∃ left, table.leave? id hold = some left ∧ left.Accounts guards holds :=
  accounts.release.exit

end Accounts

/-! ## Locks with the ids they are taken for -/

/-- The table accounts for locks, each taken for an id through a guard of its own. -/
def AccountsFor (table : GuardTable) (locks : Multiset (String × Hold)) : Prop :=
  table.Accounts (locks.map fun lock => ⟨lock.1, lock.2.lock⟩) (locks.map Prod.snd)

namespace AccountsFor

variable {table next : GuardTable} {locks : Multiset (String × Hold)} {id : String} {hold : Hold}
  {mode : LockMode}

theorem take (accounts : table.AccountsFor locks) (taken : table.take? id mode = some (hold, next)) :
    next.AccountsFor ((id, hold) ::ₘ locks) := by
  rw [AccountsFor, Multiset.map_cons, Multiset.map_cons]
  exact Accounts.take accounts taken

theorem leave (accounts : table.AccountsFor ((id, hold) ::ₘ locks)) :
    ∃ left, table.leave? id hold = some left ∧ left.AccountsFor locks := by
  rw [AccountsFor, Multiset.map_cons, Multiset.map_cons] at accounts
  exact accounts.leave

theorem holds_iff (accounts : table.AccountsFor locks) :
    table.Holds id mode ↔ ∃ hold, (id, hold) ∈ locks ∧ hold.mode = mode := by
  rw [GuardTable.holds_iff accounts.sound, Accounts.mem_holds_iff accounts, Multiset.mem_map]
  constructor
  · rintro ⟨⟨id', hold⟩, member, same⟩
    have out := Multiset.mem_map_of_mem (fun lock : String × Hold => (⟨lock.1, lock.2.lock⟩ : Guard)) member
    obtain ⟨entry, found, lock⟩ := accounts.current _ out
    dsimp only at same found lock
    subst same
    obtain rfl := accounts.sound.lockOf_apart found lock
    exact ⟨_, member, rfl⟩
  · rintro ⟨hold, member, rfl⟩
    have out := Multiset.mem_map_of_mem (fun lock : String × Hold => (⟨lock.1, lock.2.lock⟩ : Guard)) member
    exact ⟨(id, hold), member, by rw [Accounts.lockOf_eq accounts out]⟩

/-- A lock cannot be had just if it is held for the same id, by a writer or for one that wants to write. -/
theorem refused_iff (accounts : table.AccountsFor locks) : table.take? id mode = none ↔
    ∃ hold, (id, hold) ∈ locks ∧ (hold.mode = .exclusive ∨ mode = .exclusive) := by
  rw [← Option.not_isSome_iff_eq_none, take?_isSome_iff accounts.sound, holds_iff accounts,
    holds_iff accounts]
  constructor
  · intro refused
    by_contra clear
    refine refused ⟨?_, ?_⟩
    · rintro ⟨hold, member, written⟩
      exact clear ⟨hold, member, .inl written⟩
    · rintro writes ⟨hold, member, -⟩
      exact clear ⟨hold, member, .inr writes⟩
  · rintro ⟨hold, member, conflict⟩ ⟨unwritten, unread⟩
    cases side : hold.mode with
    | exclusive => exact unwritten ⟨hold, member, side⟩
    | shared =>
        rw [side] at conflict
        exact unread (conflict.resolve_left nofun) ⟨hold, member, side⟩

end AccountsFor

end Provision.GuardTable
