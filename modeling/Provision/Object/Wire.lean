import Provision.Json.Shape
import Provision.Object.Key
import Provision.Object.Record

/-! # Keys and records as JSON

A key is a struct of owner, space and name. A record is a struct of its kind, under the name
`type`, and the list of its bytes. -/

namespace Provision

open Json

namespace ObjectKey

/-- The fields of a key. -/
def form : Form :=
  .struct "ObjectKey" [⟨"user", .u32, none⟩, ⟨"space", .string, none⟩, ⟨"object", .string, none⟩]

/-- A key as a value. -/
def toValue (key : ObjectKey) : Value :=
  .object [("user", .int key.user.toNat), ("space", .string key.space),
    ("object", .string key.object)]

/-- The key that a decoded value stands for. -/
def ofValue? : Value → Option ObjectKey
  | .object [("user", .int user), ("space", .string space), ("object", .string object)] =>
    some ⟨.ofNat user.toNat, space, object⟩
  | _ => none

/-- The wire form of a key. -/
def encode (key : ObjectKey) : Bytes := key.toValue.print

/-- Reads a key from its wire form. -/
def decode? (wire : Bytes) : Option ObjectKey := (form.decode? wire).bind ofValue?

end ObjectKey

namespace Record

/-- The fields of a record. -/
def form : Form := .struct "Record" [⟨"type", .string, none⟩, ⟨"data", .list .u8, none⟩]

/-- A record as a value. -/
def toValue (record : Record) : Value :=
  .object [("type", .string record.kind),
    ("data", .array (record.data.map fun b => .int b.toNat))]

/-- The byte that a decoded value stands for. -/
def byteOfValue? : Value → Option UInt8
  | .int i => some (.ofNat i.toNat)
  | _ => none

/-- The record that a decoded value stands for. -/
def ofValue? : Value → Option Record
  | .object [("type", .string kind), ("data", .array items)] =>
    (items.mapM byteOfValue?).map fun data => ⟨kind, data⟩
  | _ => none

/-- The wire form of a record. -/
def encode (record : Record) : Bytes := record.toValue.print

/-- Reads a record from its wire form. -/
def decode? (wire : Bytes) : Option Record := (form.decode? wire).bind ofValue?

end Record

end Provision
