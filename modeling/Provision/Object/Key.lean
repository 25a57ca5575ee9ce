import Std.Data.ExtTreeMap
import Std.Data.ExtTreeSet

/-! # Object keys

A key names one provisioned object: the tenant that owns it, the space it lives in and its name
there. Keys are ordered by owner, then space, then name, each compared as bytes. -/

namespace Provision

/-- Fully qualified identity of a provisioned object. -/
structure ObjectKey where
  /-- Owning tenant. -/
  user : UInt32
  /-- Space of the tenant that the object lives in. -/
  space : String
  /-- Name of the object within the space. -/
  object : String
  deriving DecidableEq, Repr

namespace ObjectKey

/-- The form in which a key is shown, and under which its object is guarded. -/
def text (key : ObjectKey) : String :=
  toString key.user.toNat ++ "/" ++ key.space ++ "/" ++ key.object

/-- The key of another object of the same tenant and space. -/
def sibling (key : ObjectKey) (object : String) : ObjectKey :=
  { key with object }

/-- Lexicographic order of owner, space and name. -/
def order : ObjectKey → ObjectKey → Ordering :=
  compareLex (compareOn user) (compareLex (compareOn space) (compareOn object))

instance : Ord ObjectKey := ⟨order⟩

instance : Std.TransCmp order :=
  inferInstanceAs (Std.TransCmp (compareLex _ (compareLex _ _)))

instance : Std.LawfulEqCmp order where
  eq_of_compare {a b} h := by
    simp only [order, compareLex, compareOn, Ordering.then_eq_eq, Std.compare_eq_iff_eq] at h
    cases a
    cases b
    simp_all

end ObjectKey

/-- A finite map from objects, listed in key order. -/
abbrev ObjectMap (α : Type) := Std.ExtTreeMap ObjectKey α ObjectKey.order

/-- A finite set of objects, listed in key order. -/
abbrev ObjectSet := Std.ExtTreeSet ObjectKey ObjectKey.order

end Provision
