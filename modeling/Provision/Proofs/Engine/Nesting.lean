import Provision.Proofs.Guard.Balance
import Provision.Proofs.Guard.Undisturbed
import Provision.Proofs.Run.Trail

/-! # What runs inside stays inside

While a program runs, whatever has run around it goes on, and in the end just that runs again. So what is done in the
handler of a call or in the scope of a dependency is told from what the engine does before and after it: by the
frame that is around it then.
-/

namespace Provision

open Run Node

/-- All that ran before goes on all the while, and in the end it is what runs. -/
structure Balanced (marks : List Mark) : Prop where
  same : ∀ past, running (marks ++ past) = running past
  within : ∀ past part, part <:+ marks → running past <:+ running (part ++ past)

namespace Balanced

variable {later first marks : List Mark} {mark : Mark} {frame : Frame}

theorem nil : Balanced [] where
  same _ := rfl
  within past part inside := by rw [List.suffix_nil.mp inside, List.nil_append]

theorem append (second : Balanced later) (begun : Balanced first) : Balanced (later ++ first) where
  same past := by rw [List.append_assoc, second.same, begun.same]
  within past part inside := by
    rcases suffix_append_iff.mp inside with early | ⟨rest, rfl, late⟩
    · exact begun.within past part early
    · rw [List.append_assoc, ← begun.same past]
      exact second.within _ rest late

theorem of_outer (outer : ∀ past, running (mark :: past) = running past) : Balanced [mark] where
  same := outer
  within past part inside := by
    rcases List.suffix_cons_iff.mp inside with rfl | none
    · rw [List.singleton_append, outer]
    · rw [List.suffix_nil.mp none, List.nil_append]

theorem of_unframed (unframed : ∀ mark ∈ marks, mark.Unframed) : Balanced marks := by
  induction marks with
  | nil => exact nil
  | cons mark marks ih =>
      obtain ⟨plain, others⟩ := List.forall_mem_cons.mp unframed
      have first : Balanced [mark] := of_outer fun past => by
        cases mark with
        | began | ended => exact plain.elim
        | stored | reported | noted => rfl
      exact first.append (ih others)

theorem framed (balanced : Balanced marks) (frame : Frame) :
    Balanced (.ended frame :: (marks ++ [.began frame])) := by
  by_cases body : frame.Body
  · have same : ∀ past, running (.ended frame :: (marks ++ [.began frame]) ++ past) = running past := by
      intro past
      rw [List.cons_append, List.append_assoc, running_ended body, balanced.same, List.singleton_append,
        running_began body, List.erase_cons_head]
    refine ⟨same, fun past part inside => ?_⟩
    rcases List.suffix_cons_iff.mp inside with rfl | inside
    · rw [same]
    · rcases List.suffix_concat_iff.mp inside with rfl | ⟨rest, rfl, late⟩
      · exact List.suffix_refl _
      · rw [List.append_assoc]
        refine List.IsSuffix.trans ?_ (balanced.within _ rest late)
        rw [List.singleton_append, running_began body]
        exact List.suffix_cons _ _
  · have began : Balanced [.began frame] := of_outer fun past => (running_outer body).1
    have ended : Balanced [.ended frame] := of_outer fun past => (running_outer body).2
    exact ended.append (balanced.append began)

/-- In a frame of a handler or a scope something runs that has not run around it. -/
theorem running_ne (balanced : Balanced marks) (body : frame.Body) {past part : List Mark} (inside : part <:+ marks) :
    running (part ++ .began frame :: past) ≠ running past := by
  intro same
  have longer := (balanced.within (.began frame :: past) part inside).length_le
  rw [same, running_began body, List.length_cons] at longer
  exact absurd longer (Nat.not_succ_le_self _)

end Balanced

/-- What is done is told, and nothing is pulled away from under what runs around it. -/
def Nested (node after : Node) : Prop := ∃ marks, node.Trail after marks ∧ Balanced marks

namespace Nested

variable {node mid after : Node} {ε α : Type}

theorem refl (node : Node) : Nested node node := ⟨[], .refl node, .nil⟩

theorem trans (first : Nested node mid) (second : Nested mid after) : Nested node after := by
  obtain ⟨marks, told, balanced⟩ := first
  obtain ⟨later, told', balanced'⟩ := second
  exact ⟨later ++ marks, told.trans told', balanced'.append balanced⟩

theorem ask (call : StoreCall) : Keeps Nested (ask call : Run ε _) :=
  fun _ => ends_ask_trail.imp fun _ _ ⟨marks, told, unframed, _⟩ => ⟨marks, told, .of_unframed unframed⟩

theorem within (frame : Frame) {body : Run ε α} (keeps : Keeps Nested body) : Keeps Nested (within frame body) := by
  intro node
  rw [ends_within]
  exact (keeps _).imp fun _ _ ⟨marks, told, balanced⟩ => ⟨_, told.framed, balanced.framed frame⟩

theorem guarded {scope : GuardScope} {key : ObjectKey} {mode : LockMode} {body : Run ε α}
    (keeps : Keeps Nested body) : Keeps Nested (guarded scope key mode body) := by
  intro node
  rw [ends_guarded]
  split
  · exact refl node
  · next hold held _ =>
      refine (keeps _).imp fun _ after nested => ?_
      have before : Nested node (node.withTable scope held) := ⟨[], trail_withTable, .nil⟩
      split
      · exact (before.trans nested).trans ⟨[], trail_withTable, .nil⟩
      · exact before.trans nested

theorem demand (call : StoreCall) : Keeps Nested (demand call) := by
  refine Keeps.bind @trans (ask call) fun reply => ?_
  cases reply with
  | ok answer => exact Keeps.pure refl answer
  | error cause => exact Keeps.throw refl _

theorem running (known : ObjectKey → Prop) : Running known fun body => Keeps Nested body where
  toComposed := Keeps.composed refl @trans
  mapError f keeps := keeps.mapError f
  mark _ spoken _ := ⟨_, trail_spoken spoken, .of_unframed (List.forall_mem_singleton.mpr spoken.idle.unframed)⟩
  ask call _ := ask call
  dependsOn _ := chained_dependsOn (Keeps.composed refl @trans).chained
    (fun key => demand (.masters key)) refl (Keeps.throw refl _)
  within frame _ keeps := within frame keeps
  guarded _ keeps := guarded keeps
  panicking _ := Keeps.throw refl _
  tooDeep := Keeps.throw refl _
  look _ node := refl node

section Built

variable {engine : Engine} (built : engine.Built)

include built

theorem call (depth : Nat) (call : Call) : Keeps Nested (engine.call depth call) :=
  (running fun _ => True).call built
    (fun _ _ _ _ _ _ _ _ => Program.confined_of_all (Deed.within_of_all fun _ => trivial) _) depth call trivial

theorem run (depth : Nat) (program : Program) : Keeps Nested (engine.run depth program) :=
  (running fun _ => True).program_run (fun other _ => call built depth other)
    (program.confined_of_all (Deed.within_of_all fun _ => trivial))

end Built

end Nested

end Provision
