import Provision.Guard.Table

/-! # A caller's guards and locks

A session keeps the guards that one caller has entered and the locks taken through them, each in
a slot of its own. A guard is not given up while a lock taken through it is held. -/

namespace Provision

/-- The answer to giving up a guard. -/
inductive ExitReply where
  /-- The guard is given up. -/
  | exited
  /-- A lock taken through the guard is held; nothing was done. -/
  | locked
  /-- The slot has no guard, or no more. -/
  | gone
  deriving DecidableEq, Repr

/-- The answer to taking a lock. -/
inductive AcquireReply where
  /-- The lock was taken, in this slot. -/
  | granted (slot : Nat) (mode : LockMode)
  /-- The lock cannot be had now. -/
  | busy
  /-- There is no such guard, or no more. -/
  | gone
  deriving DecidableEq, Repr

/-- The guards and locks of one caller. -/
structure GuardSession where
  table : GuardTable := .empty
  /-- The guards by slot; a slot is emptied when its guard is given up. -/
  guards : List (Option Guard) := []
  /-- The locks by slot, each with the slot of its guard. -/
  locks : List (Option (Nat × Hold)) := []

namespace GuardSession

/-- The guard in a slot. -/
def guard? (session : GuardSession) (slot : Nat) : Option Guard := session.guards[slot]?.join

/-- Enters an id; gives the slot of the new guard. -/
def enter (session : GuardSession) (id : String) : Nat × GuardSession :=
  let (guard, table) := session.table.enter id
  (session.guards.length, { session with table, guards := session.guards ++ [some guard] })

/-- Whether a lock taken through the guard in a slot is held. -/
def holdsThrough (session : GuardSession) (slot : Nat) : Bool :=
  session.locks.any fun lock => lock.any fun (guard, _) => guard == slot

/-- Gives up the guard in a slot. -/
def exit (session : GuardSession) (slot : Nat) : ExitReply × GuardSession :=
  match session.guard? slot with
  | none => (.gone, session)
  | some guard =>
    if session.holdsThrough slot then (.locked, session)
    else
      (.exited,
        { session with
          table := (session.table.exit? guard.id).getD session.table
          guards := session.guards.set slot none })

/-- Takes the lock of the guard in a slot. -/
def acquire (session : GuardSession) (slot : Nat) (mode : LockMode) :
    AcquireReply × GuardSession :=
  match session.guard? slot with
  | none => (.gone, session)
  | some guard =>
    match session.table.acquire? guard mode with
    | none => (.busy, session)
    | some (hold, table) =>
      (.granted session.locks.length mode,
        { session with table, locks := session.locks ++ [some (slot, hold)] })

/-- Gives up the lock in a slot; tells whether it was held. -/
def unlock (session : GuardSession) (slot : Nat) : Bool × GuardSession :=
  match session.locks[slot]?.join with
  | none => (false, session)
  | some (_, hold) =>
    (true,
      { session with table := session.table.release hold, locks := session.locks.set slot none })

/-- Gives up all locks, then all guards. -/
def close (session : GuardSession) : GuardSession :=
  let unlocked := (List.range session.locks.length).foldl (fun s slot => (s.unlock slot).2) session
  (List.range session.guards.length).foldl (fun s slot => (s.exit slot).2) unlocked

end GuardSession

end Provision
