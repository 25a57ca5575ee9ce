import Provision.Workload

/-! # Known kinds

The kinds of workload that come with the system, and the types that payloads and outputs can be
declared with. Of any other kind the states are plain values, of whatever form. -/

namespace Provision.Catalog

open Json

/-- The state of a disk. -/
def diskForm : Form := .struct "Disk" [⟨"size", .u64, none⟩]

/-- The state of a virtual machine: its processors, and the disks it relies on. -/
def machineForm : Form := .struct "Machine" [⟨"cpu", .u8, none⟩, ⟨"disks", .list .string, none⟩]

/-- The state of a network. -/
def networkForm : Form := .struct "Network" [⟨"subnet", .string, none⟩]

/-- The state of a volume. -/
def volumeForm : Form :=
  .struct "Volume" [⟨"size", .i64, none⟩, ⟨"label", .option .string, none⟩]

/-- The kind of virtual machines. -/
def machineKind : String := "vm"

/-- The kinds whose states have a form of their own. -/
def stateForms : List (String × Form) :=
  [("disk", diskForm), (machineKind, machineForm), ("network", networkForm),
    ("Volume", volumeForm)]

/-- The types that are known by a name. -/
def typeForms : List (String × Form) :=
  [("unit", .plain .unit), ("bool", .plain .bool), ("u8", .plain .u8), ("u64", .plain .u64),
    ("i64", .plain .i64), ("string", .plain .string), ("opt_u64", .plain (.option .u64)),
    ("vec_string", .plain (.list .string)), ("pair", .plain (.pair .u8 .string)),
    ("map_u64", .plain (.map .u64)), ("value", .plain .any)] ++ stateForms

/-- The type of a name. -/
def form? (name : String) : Option Form := typeForms.lookup name

/-- The kind whose states have no encoding. -/
def sealedKind : String := "bad"

/-- The workload of a kind. -/
def workload (kind : String) : Workload where
  kind
  form := (stateForms.lookup kind).getD (.plain .any)
  encodable := kind != sealedKind

/-- The kinds that are declared for a type under another name than its own. -/
def declaredKinds : List (String × String) :=
  [("Disk", "disk"), ("Machine", machineKind), ("Network", "network")]

/-- The kind of a type. -/
def kindOf (type : String) : String :=
  (declaredKinds.lookup type).getD (Workload.kindOfType type)

end Provision.Catalog
