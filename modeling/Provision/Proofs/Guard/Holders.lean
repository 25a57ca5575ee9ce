import Provision.Node
import Provision.Proofs.Guard.Lock

/-! # The holders of a lock

Whoever has taken the lock of an id holds it in a mode. The holders of a lock are kept latest first, so
that they stand in the order of the frames that took it. A writer is alone with its lock: what is taken
from a table in which that is so leaves one in which it is so.
-/

namespace Provision

namespace Frame

/-- The object whose lock a frame holds. -/
def object : Frame → ObjectKey
  | dispatch span _ | handler span _ => span.object
  | dependency _ slave | scope _ slave => slave

/-- How a frame holds the lock of its object. -/
def mode : Frame → LockMode
  | dispatch _ mode | handler _ mode => mode
  | dependency _ _ | scope _ _ => .shared

end Frame

/-- The frames whose object has an id. -/
def framesOn (id : String) (frames : List Frame) : List Frame :=
  frames.filter fun frame => frame.object.text = id

namespace GuardTable

/-- The modes in which the lock of an id is held, latest first. -/
def holders (table : GuardTable) (id : String) : List LockMode :=
  match table.entries[id]? with
  | none => []
  | some entry => (table.holds.filter fun hold => hold.lock = entry.lock).map Hold.mode

/-- A writer is the only holder of its lock. -/
def Exclusion (table : GuardTable) : Prop :=
  ∀ id, .exclusive ∈ table.holders id → table.holders id = [.exclusive]

variable {table other held : GuardTable} {id id' : String} {mode : LockMode} {hold : Hold}

theorem mem_holders_iff : mode ∈ table.holders id ↔ table.Holds id mode := by
  rw [holders, Holds]
  cases table.entries[id]? with
  | none => simp
  | some entry =>
      simp only [List.mem_map, List.mem_filter, decide_eq_true_eq, Option.some.injEq, exists_eq_left']
      constructor
      · rintro ⟨⟨lock, mode⟩, ⟨member, rfl⟩, rfl⟩
        exact member
      · exact fun member => ⟨_, ⟨member, rfl⟩, rfl⟩

theorem holders_of_free (free : table.holds = []) : table.holders id = [] := by
  rw [holders]
  split
  · rfl
  · rw [free]
    rfl

theorem exclusion_of_free (free : table.holds = []) : table.Exclusion := by
  intro id member
  rw [holders_of_free free] at member
  cases member

theorem Agrees.holders (agrees : table.Agrees other) : other.holders id = table.holders id := by
  rw [GuardTable.holders, GuardTable.holders, agrees.entries, agrees.holds]

theorem Agrees.refCount (agrees : table.Agrees other) : other.refCount id = table.refCount id := by
  rw [GuardTable.refCount, GuardTable.refCount, agrees.entries]

theorem Agrees.exclusion (agrees : table.Agrees other) (exclusion : table.Exclusion) :
    other.Exclusion := by
  intro id
  rw [agrees.holders]
  exact exclusion id

theorem lockState_eq_exclusive_iff {lock : Nat} :
    table.lockState lock = .exclusive ↔ ⟨lock, .exclusive⟩ ∈ table.holds := by
  by_cases exclusive : ⟨lock, .exclusive⟩ ∈ table.holds
  · simp [lockState, exclusive]
  · by_cases shared : ⟨lock, .shared⟩ ∈ table.holds <;> simp [lockState, exclusive, shared]

theorem lockState_eq_shared_iff {lock : Nat} : table.lockState lock = .shared ↔
    ⟨lock, .exclusive⟩ ∉ table.holds ∧ ⟨lock, .shared⟩ ∈ table.holds := by
  by_cases exclusive : ⟨lock, .exclusive⟩ ∈ table.holds
  · simp [lockState, exclusive]
  · by_cases shared : ⟨lock, .shared⟩ ∈ table.holds <;> simp [lockState, exclusive, shared]

/-- Another caller finds an id locked exclusively just if somebody holds it so. -/
theorem view_eq_exclusive_iff : (table.view id).state = .exclusive ↔ .exclusive ∈ table.holders id := by
  rw [mem_holders_iff, view, Holds]
  cases table.entries[id]? with
  | none => simp
  | some entry => simp [lockState_eq_exclusive_iff]

theorem view_eq_shared_iff : (table.view id).state = .shared ↔
    .exclusive ∉ table.holders id ∧ .shared ∈ table.holders id := by
  rw [mem_holders_iff, mem_holders_iff, view, Holds, Holds]
  cases table.entries[id]? with
  | none => simp
  | some entry => simp [lockState_eq_shared_iff]

/-- Nobody holds a lock that was not made for an entry. -/
theorem Sound.holders_eq (sound : table.Sound) : table.holders id =
    (table.holds.filter fun hold => hold.lock = table.lockOf id).map Hold.mode := by
  rw [holders]
  cases found : table.entries[id]? with
  | none =>
      have own : ∀ hold ∈ table.holds, ¬hold.lock = table.nextLock := fun hold member =>
        Nat.ne_of_lt (sound.known hold member)
      simp only [lockOf, found, Option.map_none, Option.getD_none]
      rw [List.filter_eq_nil_iff.mpr fun hold member => by simpa using own hold member]
      rfl
  | some entry => simp [lockOf, found]

section Taken

variable (taken : table.take? id mode = some (hold, held))

include taken

theorem refCount_take? :
    held.refCount id' = table.refCount id' + if id = id' then 1 else 0 := by
  simp only [refCount, take?_getElem? taken]
  split
  next same => simp [← same]
  next other => rfl

/-- Whoever takes a lock is the latest of its holders. -/
theorem holders_take? (sound : table.Sound) :
    held.holders id' = (if id = id' then [mode] else []) ++ table.holders id' := by
  by_cases same : id = id'
  · subst same
    simp only [holders, take?_getElem? taken, ↓reduceIte, take?_holds taken]
    rw [← holders, sound.holders_eq]
    simp
  · simp only [holders, take?_getElem? taken, same, ↓reduceIte, take?_holds taken, List.nil_append]
    cases found : table.entries[id']? with
    | none => rfl
    | some entry =>
        have apart : ¬table.lockOf id = entry.lock := fun equal =>
          same (sound.lockOf_apart found equal.symm).symm
        simp [apart]

theorem Exclusion.take? (sound : table.Sound) (exclusion : table.Exclusion) : held.Exclusion := by
  intro id' member
  rw [holders_take? taken sound] at member ⊢
  by_cases same : id = id'
  · subst same
    simp only [↓reduceIte, List.cons_append, List.nil_append, List.mem_cons] at member ⊢
    have free : ∀ mode', mode = .exclusive → mode' ∉ table.holders id := fun mode' exclusive =>
      mem_holders_iff.not.mpr (not_holds_of_take?_exclusive taken exclusive)
    rcases member with rfl | member
    · rw [List.eq_nil_iff_forall_not_mem.mpr fun mode' => free mode' rfl]
    · have admitted := (lockState_admits_iff.mp (take?_eq_some_iff.mp taken).1).1
      rw [mem_holders_iff, holds_iff sound] at member
      exact absurd member admitted
  · simp only [same, ↓reduceIte, List.nil_append] at member ⊢
    exact exclusion id' member

end Taken

/-! ## Tables that look alike -/

/-- Of every id as many guards are out and its lock is held in the same modes, whichever locks these are. -/
structure Alike (table other : GuardTable) : Prop where
  sound : table.Sound
  sound' : other.Sound
  counted : ∀ id, other.refCount id = table.refCount id
  holders : ∀ id, other.holders id = table.holders id

namespace Alike

variable (alike : table.Alike other)

theorem refl (sound : table.Sound) : table.Alike table := ⟨sound, sound, fun _ => rfl, fun _ => rfl⟩

include alike

theorem symm : other.Alike table :=
  ⟨alike.sound', alike.sound, fun id => (alike.counted id).symm, fun id => (alike.holders id).symm⟩

theorem agrees {last last' : GuardTable} (agrees : table.Agrees last) (sound : last.Sound)
    (agrees' : other.Agrees last') (sound' : last'.Sound) : last.Alike last' where
  sound := sound
  sound' := sound'
  counted id := by rw [agrees.refCount, agrees'.refCount, alike.counted]
  holders id := by rw [agrees.holders, agrees'.holders, alike.holders]

theorem view : other.view id = table.view id := by
  have references : ∀ table : GuardTable, (table.view id).references = table.refCount id := by
    intro table
    rw [GuardTable.view, refCount]
    cases table.entries[id]? <;> rfl
  have exclusive : (other.view id).state = .exclusive ↔ (table.view id).state = .exclusive := by
    rw [view_eq_exclusive_iff, view_eq_exclusive_iff, alike.holders]
  have shared : (other.view id).state = .shared ↔ (table.view id).state = .shared := by
    rw [view_eq_shared_iff, view_eq_shared_iff, alike.holders]
  have states : ∀ {state state' : LockState}, (state = .exclusive ↔ state' = .exclusive) →
      (state = .shared ↔ state' = .shared) → state = state' := by
    intro state state' exclusive shared
    cases state <;> cases state' <;> simp_all
  have counted : (other.view id).references = (table.view id).references := by
    rw [references, references, alike.counted]
  exact congrArg₂ GuardView.mk counted (states exclusive shared)

theorem take?_eq_none_iff : other.take? id mode = none ↔ table.take? id mode = none := by
  rw [← Option.not_isSome_iff_eq_none, ← Option.not_isSome_iff_eq_none, take?_isSome_iff alike.sound,
    take?_isSome_iff alike.sound']
  simp only [← mem_holders_iff, alike.holders]

/-- What can be taken from one can be taken from the other, and what is left looks alike again. -/
theorem exists_take? (taken : table.take? id mode = some (hold, held)) :
    ∃ hold' held', other.take? id mode = some (hold', held') ∧ held.Alike held' := by
  cases taken' : other.take? id mode with
  | none => exact nomatch taken.symm.trans (alike.take?_eq_none_iff.mp taken')
  | some both =>
      obtain ⟨hold', held'⟩ := both
      refine ⟨hold', held', rfl, Sound.take? taken alike.sound, Sound.take? taken' alike.sound', ?_, ?_⟩
      · intro id'
        rw [refCount_take? taken, refCount_take? taken', alike.counted]
      · intro id'
        rw [holders_take? taken alike.sound, holders_take? taken' alike.sound', alike.holders]

end Alike

end GuardTable

end Provision
