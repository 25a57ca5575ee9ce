/-! # Access policies

Two unrelated notions of "exclusive" meet here. An exclusive *action* holds the writer side of
its object's lock while it runs. An exclusive *resource* may be a dependency of at most one other
object. -/

namespace Provision

/-- Access policy of an action, a set of bits. -/
structure ActionFlags where
  bits : UInt8
  deriving DecidableEq, Repr

namespace ActionFlags

/-- Shared access to an object that exists. -/
def empty : ActionFlags := ⟨0⟩

/-- The action runs alone on its object. -/
def exclusive : ActionFlags := ⟨1⟩

/-- The action needs an object that does not exist yet; without it the object must exist. -/
def mustNotExist : ActionFlags := ⟨2⟩

/-- The policy of creating actions: alone, on a new object. -/
def create : ActionFlags := ⟨exclusive.bits ||| mustNotExist.bits⟩

/-- The flags of both policies. -/
def union (a b : ActionFlags) : ActionFlags := ⟨a.bits ||| b.bits⟩

/-- Whether every flag of `b` is set in `a`. -/
def contains (a b : ActionFlags) : Bool := a.bits &&& b.bits == b.bits

/-- Whether the writer side of the object's lock is needed. A creating action needs it even
    without the exclusive flag: two creations must not both find the object missing. -/
def requiresWrite (a : ActionFlags) : Bool := a.bits &&& create.bits != 0

/-- Whether the object must be new. -/
def requiresNew (a : ActionFlags) : Bool := a.contains mustNotExist

/-- The flags as shown in diagnostics. -/
def inspect (a : ActionFlags) : String := "ActionFlags(" ++ toString a.bits.toNat ++ ")"

end ActionFlags

/-- Sharing policy of a resource as a dependency. -/
structure ResourceFlags where
  bits : UInt8
  deriving DecidableEq, Repr

namespace ResourceFlags

/-- Any number of objects may depend on one of these. -/
def shareable : ResourceFlags := ⟨0⟩

/-- At most one object may depend on one of these. -/
def exclusive : ResourceFlags := ⟨1⟩

/-- The flags of both policies. -/
def union (a b : ResourceFlags) : ResourceFlags := ⟨a.bits ||| b.bits⟩

/-- Whether every flag of `b` is set in `a`. -/
def contains (a b : ResourceFlags) : Bool := a.bits &&& b.bits == b.bits

/-- Whether at most one object may depend on an object with this policy. -/
def isExclusive (a : ResourceFlags) : Bool := a.contains exclusive

/-- The flags as shown in diagnostics. -/
def inspect (a : ResourceFlags) : String := "ResourceFlags(" ++ toString a.bits.toNat ++ ")"

end ResourceFlags

end Provision
