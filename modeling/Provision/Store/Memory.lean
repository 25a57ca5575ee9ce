import Provision.Object.Key
import Provision.Object.Record
import Provision.Text.Inspect

/-! # Records and dependencies in memory

The store keeps the records of objects and the ledger of dependencies. An edge from a master to a
slave says that the master relies on the slave. Edges are kept in both directions, so that the
slaves of a master and the masters of a slave are found alike; a set that becomes empty is
dropped. -/

namespace Provision

/-- Records, and dependency edges in both directions. -/
structure MemoryStore where
  records : ObjectMap Record := ∅
  /-- What each master relies on. -/
  slaves : ObjectMap ObjectSet := ∅
  /-- Who relies on each slave. -/
  masters : ObjectMap ObjectSet := ∅

/-- Puts an object into the set kept for a key. -/
def ObjectMap.link (map : ObjectMap ObjectSet) (key object : ObjectKey) : ObjectMap ObjectSet :=
  map.insert key ((map[key]?.getD ∅).insert object)

/-- Takes an object out of the set kept for a key, and drops the set if it becomes empty. -/
def ObjectMap.unlink (map : ObjectMap ObjectSet) (key object : ObjectKey) :
    ObjectMap ObjectSet :=
  match map[key]? with
  | none => map
  | some set =>
    let rest := set.erase object
    if rest.isEmpty then map.erase key else map.insert key rest

namespace MemoryStore

/-- The store without records and edges. -/
def empty : MemoryStore := {}

/-- The record stored for an object. -/
def record? (store : MemoryStore) (key : ObjectKey) : Option Record := store.records[key]?

/-- Whether a record is stored for an object. -/
def hasRecord (store : MemoryStore) (key : ObjectKey) : Bool := store.records.contains key

/-- Stores a record for an object, in the place of one stored before. -/
def write (store : MemoryStore) (key : ObjectKey) (record : Record) : MemoryStore :=
  { store with records := store.records.insert key record }

/-- The objects that a master relies on, in key order. -/
def slavesOf (store : MemoryStore) (master : ObjectKey) : List ObjectKey :=
  (store.slaves[master]?.map (·.toList)).getD []

/-- The objects that rely on a slave, in key order. -/
def mastersOf (store : MemoryStore) (slave : ObjectKey) : List ObjectKey :=
  (store.masters[slave]?.map (·.toList)).getD []

/-- Whether some object relies on this one. -/
def isSlave (store : MemoryStore) (slave : ObjectKey) : Bool := !(store.mastersOf slave).isEmpty

/-- Adds an edge. -/
def link (store : MemoryStore) (master slave : ObjectKey) : MemoryStore :=
  { store with
    slaves := ObjectMap.link store.slaves master slave
    masters := ObjectMap.link store.masters slave master }

/-- Removes an edge, if it is there. -/
def unlink (store : MemoryStore) (master slave : ObjectKey) : MemoryStore :=
  { store with
    slaves := ObjectMap.unlink store.slaves master slave
    masters := ObjectMap.unlink store.masters slave master }

/-- Removes the edges of a master; gives the objects it relied on. -/
def release (store : MemoryStore) (master : ObjectKey) : List ObjectKey × MemoryStore :=
  let slaves := store.slavesOf master
  (slaves, slaves.foldl (fun store slave => store.unlink master slave) store)

/-- Removes the record of an object and the edges where it is the master; gives the objects it
    relied on. Fails if there is no record. -/
def remove? (store : MemoryStore) (key : ObjectKey) : Option (List ObjectKey × MemoryStore) :=
  if store.hasRecord key then
    some (MemoryStore.release { store with records := store.records.erase key } key)
  else none

/-- Number of stored records. -/
def size (store : MemoryStore) : Nat := store.records.size

/-- Whether no record is stored. -/
def isEmpty (store : MemoryStore) : Bool := store.records.isEmpty

/-- The edges of the ledger, in the order of master and slave. -/
def edges (store : MemoryStore) : List (ObjectKey × ObjectKey) :=
  store.slaves.toList.flatMap fun (master, slaves) => slaves.toList.map fun slave => (master, slave)

/-- A store as diagnostics show it. -/
def inspect (store : MemoryStore) : String :=
  Text.inspectRecord "MemoryStore"
    [("records", toString store.size), ("dependents", toString store.slaves.size)]

end MemoryStore

end Provision
