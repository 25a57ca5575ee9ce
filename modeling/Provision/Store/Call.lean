import Provision.Store.Memory
import Provision.Error

/-! # Store operations

The engine asks its store in calls, one for each operation. A call has an answer of its own type,
and may fail instead. -/

namespace Provision

/-- The operations of a store. -/
inductive StoreOperation where
  | get
  | has
  | write
  | remove
  | link
  | unlink
  | release
  | masters
  deriving DecidableEq, Repr

namespace StoreOperation

/-- The name of an operation in the words of a failing backend. -/
def name : StoreOperation → String
  | get => "get"
  | has => "exists"
  | write => "set"
  | remove => "delete"
  | link => "dep_add"
  | unlink => "dep_remove"
  | release => "release"
  | masters => "masters"

/-- The operation of a name. -/
def ofName? (name : String) : Option StoreOperation :=
  [get, has, write, remove, link, unlink, release, masters].find? fun op => op.name == name

end StoreOperation

/-- One question or order to the store. -/
inductive StoreCall where
  /-- Read the record of an object. -/
  | get (key : ObjectKey)
  /-- Ask whether an object has a record. -/
  | has (key : ObjectKey)
  /-- Create or replace the record of an object. -/
  | write (key : ObjectKey) (record : Record)
  /-- Remove the record of an object and the edges where it is the master. -/
  | remove (key : ObjectKey)
  /-- Add an edge. -/
  | link (master slave : ObjectKey)
  /-- Remove an edge. -/
  | unlink (master slave : ObjectKey)
  /-- Remove the edges of a master. -/
  | release (master : ObjectKey)
  /-- List the objects that rely on a slave. -/
  | masters (slave : ObjectKey)
  deriving DecidableEq, Repr

namespace StoreCall

/-- The operation of a call. -/
def operation : StoreCall → StoreOperation
  | get _ => .get
  | has _ => .has
  | write .. => .write
  | remove _ => .remove
  | link .. => .link
  | unlink .. => .unlink
  | release _ => .release
  | masters _ => .masters

/-- The object that a call is about; of an edge, its master. -/
def subject : StoreCall → ObjectKey
  | get key | has key | write key _ | remove key | link key _ | unlink key _ | release key
  | masters key => key

/-- The type of the answer to a call. -/
abbrev Answer : StoreCall → Type
  | get _ => Record
  | has _ => Bool
  | write .. | remove _ | link .. | unlink .. => Unit
  | release _ | masters _ => List ObjectKey

end StoreCall

/-- Carries out a call on a store in memory. -/
def MemoryStore.answer (store : MemoryStore) :
    (call : StoreCall) → Except StoreError call.Answer × MemoryStore
  | .get key =>
    match store.record? key with
    | some record => (.ok record, store)
    | none => (.error (.notFound key), store)
  | .has key => (.ok (store.hasRecord key), store)
  | .write key record => (.ok (), store.write key record)
  | .remove key =>
    match store.remove? key with
    | some (_, store) => (.ok (), store)
    | none => (.error (.notFound key), store)
  | .link master slave => (.ok (), store.link master slave)
  | .unlink master slave => (.ok (), store.unlink master slave)
  | .release master =>
    let (slaves, store) := store.release master
    (.ok slaves, store)
  | .masters slave => (.ok (store.mastersOf slave), store)

end Provision
