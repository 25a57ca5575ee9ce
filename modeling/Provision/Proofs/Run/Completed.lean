import Provision.Proofs.Run.Ends

/-! # Runs that come to their end

A run that is brought to a halt leaves things half done, and so does whoever made it: a halt goes through
to the outermost level. A relation that only the completed parts of a run respect is respected by the run
if it is completed.
-/

namespace Provision.Run

variable {ε ε' α β : Type} {node : Node}

/-- The end of a run that was not brought to a halt. -/
def Completed : Except (Halt ε) α → Prop
  | .ok _ | .error (.error _) => True
  | .error (.panic _) | .error (.waits _) | .error .tooDeep => False

theorem completed_error {halt : Halt ε} (completed : Completed (.error halt : Except (Halt ε) α)) :
    Completed (.error halt : Except (Halt ε) β) := by
  cases halt with
  | error => trivial
  | panic | waits | tooDeep => exact completed

theorem completed_caught {outcome : Except (Halt ε') α} :
    Completed (caught outcome : Except (Halt ε) _) ↔ Completed outcome := by
  cases outcome with
  | ok => exact Iff.rfl
  | error halt => cases halt <;> exact Iff.rfl

/-- What is still an end without a value where errors have been made values is a halt. -/
theorem not_completed_of_caught {outcome : Except (Halt ε') α} {halt : Halt ε}
    (stopped : caught outcome = .error halt) : ¬Completed (.error halt : Except (Halt ε) β) := by
  cases outcome with
  | ok => cases stopped
  | error other => cases other <;> cases stopped <;> exact id

theorem completed_mapError {outcome : Except (Halt ε') α} {f : ε' → ε} :
    Completed (outcome.mapError (Halt.map f)) ↔ Completed outcome := by
  cases outcome with
  | ok => exact Iff.rfl
  | error halt => cases halt <;> exact Iff.rfl

/-- Every completed end of a run is related to its start. -/
def Achieves (R : Node → Node → Prop) (body : Run ε α) : Prop :=
  ∀ node, body.Ends node fun result after => Completed result → R node after

section Achieves

variable {R : Node → Node → Prop} {body : Run ε α}

theorem Achieves.mapError {body : Run ε' α} (achieves : Achieves R body) (f : ε' → ε) :
    Achieves R (body.mapError f) := by
  intro node
  rw [ends_mapError]
  exact (achieves node).imp fun _ _ related completed => related (completed_mapError.mp completed)

theorem Achieves.composed (refl : ∀ node, R node node) (trans : ∀ ⦃a b c⦄, R a b → R b c → R a c) :
    Composed fun body => Achieves R body where
  pure _ node _ := refl node
  fail _ node _ := refl node
  bind {_ _ _ body next} first second node := by
    refine (first node).bind ?_ ?_
    · intro value after related
      exact (second value after).imp fun _ _ further completed =>
        trans (related trivial) (further completed)
    · intro halt after related completed
      cases halt with
      | error error => exact related trivial
      | panic | waits | tooDeep => exact completed.elim
  attempt achieves node := by
    rw [ends_attempt]
    exact (achieves node).imp fun _ _ related completed => related (completed_caught.mp completed)

end Achieves

end Provision.Run
