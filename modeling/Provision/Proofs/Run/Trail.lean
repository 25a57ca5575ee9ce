import Provision.Proofs.Run.History

/-! # What is done between two moments

The entries by which the history of a run has grown tell how far the plan has come by which calls of the store go
wrong. So of each call that went wrong it is known what was planned for it, and what it was answered with.
-/

namespace Provision

namespace FaultPlan

variable {faults : FaultPlan} {later earlier marks : List Mark}

/-- The plan after what a history tells. -/
def passed (faults : FaultPlan) : List Mark → FaultPlan
  | [] => faults
  | .stored call _ :: past => (faults.passed past).count call.operation
  | _ :: past => faults.passed past

theorem passed_append : faults.passed (later ++ earlier) = (faults.passed earlier).passed later := by
  induction later with
  | nil => rfl
  | cons mark later ih =>
      cases mark with
      | stored call astray => exact congrArg (·.count call.operation) ih
      | began | ended | reported | noted => exact ih

theorem schedule_passed : (faults.passed marks).schedule = faults.schedule := by
  induction marks with
  | nil => rfl
  | cons mark marks ih => cases mark <;> exact ih

theorem passed_reported (events : List Event) : faults.passed (events.map Mark.reported) = faults := by
  induction events with
  | nil => rfl
  | cons event events ih => exact ih

/-- Calls that go wrong are answered with the failure of a backend. -/
def Outages (faults : FaultPlan) : Prop :=
  ∀ operation n fault, faults.schedule operation n = some fault → ∀ call : StoreCall,
    call.operation = operation → ∃ reason, fault.answer call = .error (.backend reason)

theorem outages_none : FaultPlan.none.Outages := nofun

theorem Outages.plan (outages : faults.Outages) {operation : StoreOperation} {reason : String} {skip : Nat}
    {times : Option Nat} : (faults.plan operation (.failing reason) skip times).Outages := by
  intro op n fault planned call same
  simp only [FaultPlan.plan] at planned
  split at planned
  · obtain rfl : .failing reason = fault := by grind
    exact ⟨reason, by cases call <;> rfl⟩
  · exact outages op n fault planned call same

theorem Outages.passed (outages : faults.Outages) (marks : List Mark) : (faults.passed marks).Outages := by
  rw [Outages, schedule_passed]
  exact outages

end FaultPlan

/-- An entry of a history that tells of no frame. -/
def Mark.Unframed : Mark → Prop
  | .began _ | .ended _ => False
  | .stored .. | .reported _ | .noted _ => True

theorem Mark.Idle.unframed {mark : Mark} (idle : mark.Idle) : mark.Unframed := by
  cases mark with
  | began | ended => exact idle.elim
  | stored | reported | noted => trivial

/-- A call of the store is told to have gone wrong, after what was told earlier. -/
def Astray (marks : List Mark) (call : StoreCall) (earlier : List Mark) : Prop :=
  .stored call true :: earlier <:+ marks

section Astray

variable {later first marks earlier : List Mark} {mark : Mark} {call : StoreCall}

theorem suffix_append_iff : marks <:+ later ++ first ↔
    marks <:+ first ∨ ∃ rest, marks = rest ++ first ∧ rest <:+ later := by
  constructor
  · intro inside
    rcases List.suffix_or_suffix_of_suffix inside (List.suffix_append later first) with early | ⟨rest, rfl⟩
    · exact .inl early
    · exact .inr ⟨rest, rfl, List.suffix_append_self_iff.mp inside⟩
  · rintro (early | ⟨rest, rfl, late⟩)
    · exact List.suffix_append_of_suffix early
    · exact List.suffix_append_self_iff.mpr late

theorem astray_append : Astray (later ++ first) call earlier ↔
    Astray first call earlier ∨ ∃ rest, earlier = rest ++ first ∧ Astray later call rest := by
  rw [Astray, suffix_append_iff]
  constructor
  · rintro (early | ⟨rest, told, late⟩)
    · exact .inl early
    · cases rest with
      | nil =>
          obtain rfl : .stored call true :: earlier = first := told
          exact .inl (List.suffix_refl _)
      | cons mark rest =>
          obtain ⟨rfl, rfl⟩ := List.cons_eq_cons.mp told
          exact .inr ⟨rest, rfl, late⟩
  · rintro (early | ⟨rest, rfl, late⟩)
    · exact .inl early
    · exact .inr ⟨_, rfl, late⟩

theorem not_astray (none : ∀ call, .stored call true ∉ marks) : ¬Astray marks call earlier :=
  fun astray => none call (astray.subset List.mem_cons_self)

theorem astray_singleton_iff : Astray [mark] call earlier ↔ mark = .stored call true ∧ earlier = [] := by
  constructor
  · intro astray
    rcases List.suffix_cons_iff.mp astray with same | none
    · obtain ⟨rfl, rfl⟩ := List.cons_eq_cons.mp same
      exact ⟨rfl, rfl⟩
    · cases List.suffix_nil.mp none
  · rintro ⟨rfl, rfl⟩
    exact List.suffix_refl _

/-- What goes wrong in a frame goes wrong after its beginning. -/
theorem astray_framed {frame : Frame} : Astray (.ended frame :: (marks ++ [.began frame])) call earlier ↔
    ∃ rest, earlier = rest ++ [.began frame] ∧ Astray marks call rest := by
  rw [← List.singleton_append, astray_append, astray_append]
  simp [astray_singleton_iff]

end Astray

namespace Node

variable {node mid after : Node} {marks later : List Mark}

/-- What was done between two moments of a run, latest first. -/
structure Trail (node after : Node) (marks : List Mark) : Prop where
  history : after.history = marks ++ node.history
  faults : after.faults = node.faults.passed marks

namespace Trail

theorem refl (node : Node) : node.Trail node [] := ⟨rfl, rfl⟩

theorem trans (first : node.Trail mid marks) (second : mid.Trail after later) : node.Trail after (later ++ marks) where
  history := by rw [second.history, first.history, List.append_assoc]
  faults := by rw [second.faults, first.faults, FaultPlan.passed_append]

theorem suffix (trail : node.Trail after marks) : node.history <:+ after.history := ⟨marks, trail.history.symm⟩

theorem eq_history (trail : node.Trail after marks) (first : node.history = []) : marks = after.history := by
  rw [trail.history, first, List.append_nil]

theorem outages (trail : node.Trail after marks) (outages : node.faults.Outages) : after.faults.Outages :=
  trail.faults ▸ outages.passed marks

end Trail

theorem trail_marked {mark : Mark} (unstored : ∀ call astray, mark ≠ .stored call astray) :
    node.Trail (node.marked mark) [mark] where
  history := rfl
  faults := by
    cases mark with
    | stored call astray => exact absurd rfl (unstored call astray)
    | began | ended | reported | noted => rfl

theorem Trail.framed {frame : Frame} (trail : (node.marked (.began frame)).Trail after marks) :
    node.Trail (after.marked (.ended frame)) (.ended frame :: (marks ++ [.began frame])) := by
  have began : node.Trail (node.marked (.began frame)) [.began frame] := trail_marked nofun
  have ended : after.Trail (after.marked (.ended frame)) [.ended frame] := trail_marked nofun
  exact (began.trans trail).trans ended

theorem trail_withTable {scope : GuardScope} {table : GuardTable} : node.Trail (node.withTable scope table) [] where
  history := history_withTable
  faults := faults_withTable

theorem trail_spoken {mark : Mark} (spoken : mark.Spoken) : node.Trail (node.marked mark) [mark] := by
  refine trail_marked ?_
  rintro call astray rfl
  exact spoken

end Node

namespace Run

variable {ε : Type} {node : Node} {call : StoreCall}

/-- A call goes wrong as it is planned, or nothing goes wrong. -/
theorem ends_ask_trail : (ask call : Run ε _).Ends node fun result after => ∃ marks, node.Trail after marks ∧
    (∀ mark ∈ marks, mark.Unframed) ∧
    ((∃ fault, node.faults.next call.operation = some fault ∧ marks = [.stored call true] ∧
        result = .ok (fault.answer call)) ∨ ∀ other earlier, ¬Astray marks other earlier) := by
  simp only [Ends, ask]
  cases planned : node.faults.next call.operation with
  | some fault =>
      refine ⟨[.stored call true], ⟨rfl, rfl⟩, ?_, .inl ⟨fault, rfl, rfl, rfl⟩⟩
      simp [Mark.Unframed]
  | none =>
      refine ⟨((node.reports call).map Mark.reported).reverse ++ [.stored call false], ⟨?_, ?_⟩, ?_, .inr ?_⟩
      · rw [List.append_assoc]
        rfl
      · rw [FaultPlan.passed_append, ← List.map_reverse, FaultPlan.passed_reported]
        rfl
      · intro mark member
        rcases List.mem_append.mp member with told | asked
        · obtain ⟨event, -, rfl⟩ := List.mem_map.mp (List.mem_reverse.mp told)
          trivial
        · rw [List.mem_singleton.mp asked]
          trivial
      · intro other earlier
        refine not_astray fun call member => ?_
        rcases List.mem_append.mp member with told | asked
        · obtain ⟨event, -, other⟩ := List.mem_map.mp (List.mem_reverse.mp told)
          cases other
        · cases List.mem_singleton.mp asked

end Run

end Provision
