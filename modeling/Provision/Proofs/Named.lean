import Mathlib.Data.List.Nodup

/-! # What is found by its name

If no two things of a list have one name, each is found by its name, wherever it stands.
-/

namespace Provision

variable {α : Type} {named : α → String} {things : List α} {thing : α} {name : String}

theorem find?_of_mem (distinct : (things.map named).Nodup) (member : thing ∈ things) :
    things.find? (fun other => named other == named thing) = some thing := by
  induction things with
  | nil => cases member
  | cons first things ih =>
      obtain ⟨own, others⟩ := List.nodup_cons.mp distinct
      rcases List.mem_cons.mp member with rfl | later
      · simp
      · have different : named first ≠ named thing := fun same =>
          own (same ▸ List.mem_map_of_mem later)
        rw [List.find?_cons_of_neg (by simpa using different)]
        exact ih others later

theorem lookup_of_mem {members : List (String × α)} (distinct : (members.map Prod.fst).Nodup)
    (member : (name, thing) ∈ members) : members.lookup name = some thing := by
  obtain ⟨front, behind, rfl⟩ := List.append_of_mem member
  refine List.lookup_eq_some_iff.mpr ⟨front, behind, rfl, fun other inFront => ?_⟩
  rw [List.map_append, List.map_cons] at distinct
  have apart := (List.nodup_append.mp distinct).2.2 other.1 (List.mem_map_of_mem inFront) name
    List.mem_cons_self
  exact bne_iff_ne.mpr apart.symm

theorem lookup_eq_some_iff_mem {members : List (String × α)} (distinct : (members.map Prod.fst).Nodup) :
    members.lookup name = some thing ↔ (name, thing) ∈ members := by
  refine ⟨fun found => ?_, lookup_of_mem distinct⟩
  obtain ⟨front, behind, rfl, -⟩ := List.lookup_eq_some_iff.mp found
  exact List.mem_append_right _ List.mem_cons_self

end Provision
