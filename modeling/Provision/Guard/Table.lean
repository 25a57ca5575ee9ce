import Std.Data.ExtTreeMap
import Provision.Text.Inspect

/-! # Object guards

A guard registers interest in one object id, and gives access to the reader/writer lock of that
id. A table holds an entry for each id that some guard is out for: the first guard of an id makes
the entry with a fresh lock, the last one to exit removes it. Entering never waits.

Of a lock it is assumed that it is granted for writing when nobody holds it and for reading when no
writer does. Who waits for it plays no part. The task-fair lock of parking_lot keeps a reader
waiting behind a writer that waits already, also where only readers hold it; that the table does not
tell. -/

namespace Provision

/-- The side of a reader/writer lock. -/
inductive LockMode where
  | shared
  | exclusive
  deriving DecidableEq, Repr

/-- Whether this is the writer side. -/
def LockMode.isExclusive : LockMode → Bool
  | shared => false
  | exclusive => true

/-- One holder of a lock. -/
structure Hold where
  /-- Identity of the lock. -/
  lock : Nat
  mode : LockMode
  deriving DecidableEq, Repr

/-- The entry of an id: its lock, and how many guards are out for it. -/
structure GuardEntry where
  lock : Nat
  count : Nat
  deriving DecidableEq, Repr

/-- A registered interest in an id, with the lock that its entry had. -/
structure Guard where
  id : String
  lock : Nat
  deriving DecidableEq, Repr

/-- A guard as diagnostics show it. -/
def Guard.inspect (guard : Guard) : String :=
  Text.inspectRecord "Guard" [("id", Text.inspect guard.id)]

/-- How another caller would find a lock now. -/
inductive LockState where
  | free
  | shared
  | exclusive
  deriving DecidableEq, Repr

/-- Whether a lock found in this state can be had at once in a mode. -/
def LockState.admits : LockState → LockMode → Bool
  | free, _ => true
  | shared, mode => !mode.isExclusive
  | exclusive, _ => false

/-- How another caller would find an id now. -/
structure GuardView where
  /-- Number of guards out for the id. -/
  references : Nat
  state : LockState
  deriving DecidableEq, Repr

/-- The guards that are out, and the locks held through them. -/
structure GuardTable where
  entries : Std.ExtTreeMap String GuardEntry := ∅
  /-- Identity of the next lock to be made. -/
  nextLock : Nat := 0
  /-- The holders of all locks. -/
  holds : List Hold := []

namespace GuardTable

/-- The table without any guard. -/
def empty : GuardTable := {}

/-- Registers interest in an id. -/
def enter (table : GuardTable) (id : String) : Guard × GuardTable :=
  match table.entries[id]? with
  | some entry =>
    (⟨id, entry.lock⟩,
      { table with entries := table.entries.insert id { entry with count := entry.count + 1 } })
  | none =>
    (⟨id, table.nextLock⟩,
      { table with
        entries := table.entries.insert id ⟨table.nextLock, 1⟩
        nextLock := table.nextLock + 1 })

/-- Gives up one guard of an id; fails if none is out. -/
def exit? (table : GuardTable) (id : String) : Option GuardTable :=
  match table.entries[id]? with
  | none => none
  | some entry =>
    if entry.count ≤ 1 then some { table with entries := table.entries.erase id }
    else
      some
        { table with entries := table.entries.insert id { entry with count := entry.count - 1 } }

/-- The wording of an exit for which no guard is out. -/
def invalidExit (id : String) : String :=
  "invalid guard exit: '" ++ id ++ "' has no outstanding enter"

/-- Number of guards out for an id. -/
def refCount (table : GuardTable) (id : String) : Nat :=
  (table.entries[id]?.map GuardEntry.count).getD 0

/-- Whether a guard is out for an id. -/
def contains (table : GuardTable) (id : String) : Bool := table.entries.contains id

/-- Number of ids that a guard is out for. -/
def size (table : GuardTable) : Nat := table.entries.size

/-- Whether no guard is out. -/
def isEmpty (table : GuardTable) : Bool := table.entries.isEmpty

/-- How a lock is held. -/
def lockState (table : GuardTable) (lock : Nat) : LockState :=
  if table.holds.contains ⟨lock, .exclusive⟩ then .exclusive
  else if table.holds.contains ⟨lock, .shared⟩ then .shared
  else .free

/-- Takes the lock of a guard, if it can be had without waiting: for reading, whenever no writer
    holds it. -/
def acquire? (table : GuardTable) (guard : Guard) (mode : LockMode) :
    Option (Hold × GuardTable) :=
  if (table.lockState guard.lock).admits mode then
    some (⟨guard.lock, mode⟩, { table with holds := ⟨guard.lock, mode⟩ :: table.holds })
  else none

/-- Gives up one holder of a lock. -/
def release (table : GuardTable) (hold : Hold) : GuardTable :=
  { table with holds := table.holds.erase hold }

/-- How another caller would find an id now. -/
def view (table : GuardTable) (id : String) : GuardView :=
  match table.entries[id]? with
  | none => ⟨0, .free⟩
  | some entry => ⟨entry.count, table.lockState entry.lock⟩

/-- A table as diagnostics show it. -/
def inspect (table : GuardTable) : String :=
  Text.inspectRecord "GuardTable" [("entries", toString table.size)]

end GuardTable

end Provision
