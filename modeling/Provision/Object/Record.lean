import Provision.Text.Bytes

/-! # Stored records -/

namespace Provision

/-- Persisted state of one object: the workload kind that wrote it and the encoded state. -/
structure Record where
  /-- Workload kind that the state belongs to. -/
  kind : String
  /-- Encoded state. -/
  data : Bytes
  deriving DecidableEq, Repr

end Provision
