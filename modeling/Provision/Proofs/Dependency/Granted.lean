import Mathlib.Data.List.Infix
import Provision.Proofs.Dependency.UnderWay
import Provision.Proofs.Engine.Assembly

/-! # Reservations that were granted

A reservation succeeds on an edge that is there already, whoever recorded it. If that was a reservation
that is still under way, its failure takes the edge away from the one that was granted meanwhile. This
is the only way in which a granted edge is lost without being given up.
-/

namespace Provision

open Run Node

/-- The history right after a reservation has succeeded. -/
def grantedAfter (master slave : ObjectKey) (past : List Mark) : List Mark :=
  .ended (.dependency .add slave) :: .reported (.dependencyAdded master slave) :: past

/-- Whether the last thing done was the success of a reservation. -/
def grants (master slave : ObjectKey) : List Mark → Bool
  | .ended (.dependency .add s) :: .reported (.dependencyAdded m s') :: _ =>
    m == master && s == slave && s' == slave
  | _ => false

theorem exists_grantedAfter {master slave : ObjectKey} {history : List Mark}
    (grant : grants master slave history = true) :
    ∃ past, history = grantedAfter master slave past := by
  unfold grants at grant
  split at grant
  next s m s' past =>
    simp only [Bool.and_eq_true, beq_iff_eq] at grant
    obtain ⟨⟨rfl, rfl⟩, rfl⟩ := grant
    exact ⟨past, rfl⟩
  next => cases grant

/-- A reservation that succeeds leaves such a history. -/
theorem granted_of_ok {engine : Engine} {master slave : ObjectKey}
    {scope : Run ActionError RawJson} {node after : Node} {output : RawJson}
    (returned : engine.addDependency master slave scope node = (.ok output, after)) :
    ∃ past, after.history = grantedAfter master slave past := by
  have holds : ∀ {resource : Resource} {start : Node},
      (Engine.holdReservation resource master slave scope).Ends start fun result last =>
        ∀ output, result = .ok output →
          ∃ past, last.history = .reported (.dependencyAdded master slave) :: past := by
    intro resource start
    refine Ends.bind_value fun recorded mid => Ends.bind_value fun outcome last => ?_
    cases outcome with
    | ok output =>
        intro _ _
        exact ⟨_, rfl⟩
    | error error =>
        refine Ends.bind_value fun _ _ => ?_
        intro output same
        cases same
  have ends : (engine.addDependency master slave scope).Ends node fun result last =>
      ∀ output, result = .ok output → ∃ past, last.history = grantedAfter master slave past := by
    refine Ends.bind_value fun resource mid => ?_
    rw [Engine.addResolved_eq, ends_within, ends_guarded]
    split
    · intro output same
      cases same
    · refine holds.imp fun result last told => ?_
      split
      · intro output same
        obtain ⟨past, history⟩ := told output same
        exact ⟨past, by simp [Node.marked, grantedAfter, history]⟩
      · intro output same
        cases same
  rw [Ends, returned] at ends
  exact ends output rfl

/-- With the last thing done an edge was given up: the record of its master was removed, all that the
    master relied on was released after a create that failed, or the edge itself was released. -/
def givesUp (master slave : ObjectKey) : List Mark → Bool
  | .stored (.remove m) false :: past => m == master && (storeAfter past).hasRecord master
  | .stored (.release m) false :: _ => m == master
  | .stored (.unlink m s) false :: past =>
    m == master && s == slave && (underWay past).head?.any fun pending => pending.change == .remove
  | _ => false

/-- An edge was given up between two moments. -/
def Relinquished (master slave : ObjectKey) (first last : List Mark) : Prop :=
  ∃ mark past, first <:+ past ∧ mark :: past <:+ last ∧ givesUp master slave (mark :: past) = true

/-- Between two moments a reservation failed and withdrew an edge that it had recorded. -/
def Withdrawn (master slave : ObjectKey) (first last : List Mark) : Prop :=
  ∃ past, first <:+ past ∧ .stored (.unlink master slave) false :: past <:+ last ∧
    (underWay past).head? = some { change := .add, recorded := some (master, slave) }

/-- At a moment a reservation is still under way that has recorded an edge. -/
def Undecided (master slave : ObjectKey) (past : List Mark) : Prop :=
  { change := .add, recorded := some (master, slave) } ∈ underWay past

section Edge

variable {master slave : ObjectKey} {mark : Mark} {first last past marks : List Mark}

/-- How an edge is lost in one step: it is given up, or the innermost reservation under way withdraws
    what it has recorded. -/
theorem lost (warranted : Warranted (mark :: past)) (present : (storeAfter past).Relies master slave)
    (gone : ¬(storeAfter (mark :: past)).Relies master slave) :
    givesUp master slave (mark :: past) = true ∨ mark = .stored (.unlink master slave) false ∧
      (underWay past).head? = some { change := .add, recorded := some (master, slave) } := by
  cases mark with
  | stored call astray =>
      cases astray with
      | true => exact absurd present gone
      | false =>
          rw [storeAfter, MemoryStore.relies_after] at gone
          cases call with
          | get | has | write | masters => exact absurd present gone
          | link m s => exact absurd (.inr present) gone
          | unlink m s =>
              obtain ⟨rfl, rfl⟩ := not_not.mp fun other => gone ⟨present, other⟩
              obtain ⟨⟨change, recorded⟩, rest, told, own⟩ := warranted
              cases change with
              | remove => exact .inl (by simp [givesUp, told])
              | add => exact .inr ⟨rfl, by rw [told, List.head?_cons, ← own rfl]⟩
          | release m =>
              have same : master = m := not_not.mp fun other => gone ⟨present, other⟩
              exact .inl (by simp [givesUp, same])
          | remove m =>
              obtain ⟨rfl, found⟩ := not_not.mp fun other => gone ⟨present, other⟩
              exact .inl (by simpa [givesUp] using found)
  | began | ended | reported | noted => exact absurd present gone

/-- What is under way with an edge recorded was so before, or has recorded it just now. -/
theorem mem_advance {change : DependencyChange} {pending : List Pending}
    (member : { change, recorded := some (master, slave) } ∈ mark.advance pending) :
    { change, recorded := some (master, slave) } ∈ pending ∨
      mark = .stored (.link master slave) false := by
  unfold Mark.advance at member
  split at member
  next =>
    rcases List.mem_cons.mp member with same | old
    · cases same
    · exact .inl old
  next => exact .inl (List.mem_of_mem_tail member)
  next =>
    rcases List.mem_cons.mp member with same | old
    · simp only [Pending.mk.injEq, Option.some.injEq, Prod.mk.injEq] at same
      obtain ⟨-, rfl, rfl⟩ := same
      exact .inr rfl
    · exact .inl (List.mem_cons_of_mem _ old)
  next => exact .inl member

theorem Relinquished.cons (given : Relinquished master slave first past) :
    Relinquished master slave first (mark :: past) := by
  obtain ⟨mark', past', after, before, how⟩ := given
  exact ⟨mark', past', after, before.trans (List.suffix_cons _ _), how⟩

theorem not_relinquished (never : ∀ past ∈ last.tails, givesUp master slave past = false) :
    ¬Relinquished master slave first last := by
  intro both
  obtain ⟨mark, past, -, part, given⟩ := both
  rw [never _ ((List.mem_tails _ _).mpr part)] at given
  cases given

theorem Withdrawn.cons (taken : Withdrawn master slave first past) :
    Withdrawn master slave first (mark :: past) := by
  obtain ⟨past', after, before, how⟩ := taken
  exact ⟨past', after, before.trans (List.suffix_cons _ _), how⟩

/-- An edge that was there and was not given up is there still, and whatever is under way with this
    edge recorded was so from the start, unless such a reservation has withdrawn it. -/
theorem stays (warranted : ∀ part, part <:+ marks ++ first → Warranted part)
    (present : (storeAfter first).Relies master slave)
    (kept : ¬Relinquished master slave first (marks ++ first))
    (decided : ¬(Undecided master slave first ∧ Withdrawn master slave first (marks ++ first))) :
    (∀ past, first <:+ past → past <:+ marks ++ first → (storeAfter past).Relies master slave) ∧
      ∀ change, { change, recorded := some (master, slave) } ∈ underWay (marks ++ first) →
        { change, recorded := some (master, slave) } ∈ underWay first := by
  induction marks with
  | nil =>
      refine ⟨fun past after before => ?_, fun _ => id⟩
      rw [before.eq_of_length_le after.length_le]
      exact present
  | cons mark marks ih =>
      obtain ⟨always, origin⟩ := ih
        (fun part before => warranted part (before.trans (List.suffix_cons _ _)))
        (fun given => kept given.cons) (fun both => decided ⟨both.1, both.2.cons⟩)
      have now : (storeAfter (marks ++ first)).Relies master slave :=
        always _ (List.suffix_append _ _) (List.suffix_refl _)
      constructor
      · intro past after before
        rcases List.suffix_cons_iff.mp before with rfl | before
        · by_contra gone
          rcases lost (warranted _ (List.suffix_refl _)) now gone with given | ⟨rfl, own⟩
          · exact kept ⟨_, _, List.suffix_append _ _, List.suffix_refl _, given⟩
          · have recorder := origin .add (List.mem_of_mem_head? own)
            exact decided ⟨recorder, _, List.suffix_append _ _, List.suffix_refl _, own⟩
        · exact always past after before
      · intro change member
        rcases mem_advance member with old | rfl
        · exact origin change old
        · exact absurd now (warranted _ (List.suffix_refl _))

/-- The one way in which an edge is lost that is not given up: a reservation that was under way from
    the start and had recorded it withdraws it. -/
theorem stays_iff (warranted : ∀ part, part <:+ last → Warranted part) (between : first <:+ last)
    (kept : ¬Relinquished master slave first last) :
    (∀ past, first <:+ past → past <:+ last → (storeAfter past).Relies master slave) ↔
      (storeAfter first).Relies master slave ∧
        ¬(Undecided master slave first ∧ Withdrawn master slave first last) := by
  constructor
  · intro always
    refine ⟨always first (List.suffix_refl _) between, ?_⟩
    intro both
    obtain ⟨-, past, after, before, -⟩ := both
    have edge := always _ (after.trans (List.suffix_cons _ _)) before
    rw [storeAfter, MemoryStore.relies_after] at edge
    exact edge.2 ⟨rfl, rfl⟩
  · intro both
    obtain ⟨present, decided⟩ := both
    obtain ⟨marks, rfl⟩ := between
    exact (stays warranted present kept decided).1

end Edge

/-- In every run from an empty store that leaves the ledger to the engine, a granted edge that is not
    given up stays just if it was there when the reservation returned, and no reservation that was
    under way then, having recorded the edge, fails later. -/
theorem granted_stays_iff (engine : Engine) (depth : Nat) (faults : FaultPlan)
    {operations : List Operation} {master slave : ObjectKey} {past last : List Mark}
    (handlers : ∀ resource ∈ engine.resources, resource.Confined LeavesEdges)
    (callers : ∀ operation ∈ operations, operation.Confined (fun _ => True) LeavesEdges)
    (reached : last <:+ (engine.serve depth { faults } operations).history)
    (since : grantedAfter master slave past <:+ last)
    (kept : ¬Relinquished master slave (grantedAfter master slave past) last) :
    (∀ moment, grantedAfter master slave past <:+ moment → moment <:+ last →
        (storeAfter moment).Relies master slave) ↔
      (storeAfter past).Relies master slave ∧
        ¬(Undecided master slave (grantedAfter master slave past) ∧
          Withdrawn master slave (grantedAfter master slave past) last) := by
  have warranted := (serve_warranted engine depth faults handlers callers).always
  exact stays_iff (fun part before => warranted part (before.trans reached)) since kept

/-! ## Two reservations of one edge -/

namespace Small

/-- A disk is reserved again in the scope of its reservation, which then fails. -/
def overlapping : List Operation :=
  [.program (act "disk" "create" "a"),
    .program (reserve "vm" "a" (reserve "vm" "a" (.done (.ok .null))
      (.error (.failed "no capacity"))) (.ok .null))]

/-- What is told of the two reservations. -/
def overlap : List Mark := (engine.serve 9 { faults := .none } overlapping).history

/-- The inner reservation is granted before the last three things that happen. -/
theorem overlap_granted :
    ∃ past, overlap.drop 3 = grantedAfter (object "vm") (object "a") past :=
  exists_grantedAfter (by decide +kernel)

theorem overlap_kept {first : List Mark} :
    ¬Relinquished (object "vm") (object "a") first overlap :=
  not_relinquished (by decide +kernel)

end Small

/-- The granted edge is gone in the end, though nobody has given it up. -/
theorem granted_edge_lost : ∃ past,
    grantedAfter (Small.object "vm") (Small.object "a") past <:+ Small.overlap ∧
    ¬Relinquished (Small.object "vm") (Small.object "a")
      (grantedAfter (Small.object "vm") (Small.object "a") past) Small.overlap ∧
    (storeAfter past).Relies (Small.object "vm") (Small.object "a") ∧
    ¬(storeAfter Small.overlap).Relies (Small.object "vm") (Small.object "a") := by
  obtain ⟨past, granted⟩ := Small.overlap_granted
  have there : (storeAfter (Small.overlap.drop 3)).Relies (Small.object "vm") (Small.object "a") := by
    decide +kernel
  rw [granted] at there
  refine ⟨past, ?_, Small.overlap_kept, there, by decide +kernel⟩
  rw [← granted]
  exact List.drop_suffix _ _

/-- The general statement, for the inner one of two reservations of one edge. -/
theorem granted_stays_iff_overlap : ∃ past,
    ((∀ resource ∈ Small.engine.resources, resource.Confined LeavesEdges) ∧
      (∀ operation ∈ Small.overlapping, operation.Confined (fun _ => True) LeavesEdges) ∧
      Small.overlap <:+ (Small.engine.serve 9 { faults := .none } Small.overlapping).history ∧
      grantedAfter (Small.object "vm") (Small.object "a") past <:+ Small.overlap ∧
      ¬Relinquished (Small.object "vm") (Small.object "a")
        (grantedAfter (Small.object "vm") (Small.object "a") past) Small.overlap) ∧
    ((∀ moment, grantedAfter (Small.object "vm") (Small.object "a") past <:+ moment →
        moment <:+ Small.overlap →
          (storeAfter moment).Relies (Small.object "vm") (Small.object "a")) ↔
      (storeAfter past).Relies (Small.object "vm") (Small.object "a") ∧
        ¬(Undecided (Small.object "vm") (Small.object "a")
            (grantedAfter (Small.object "vm") (Small.object "a") past) ∧
          Withdrawn (Small.object "vm") (Small.object "a")
            (grantedAfter (Small.object "vm") (Small.object "a") past) Small.overlap)) := by
  obtain ⟨past, granted⟩ := Small.overlap_granted
  have handlers : ∀ resource ∈ Small.engine.resources, resource.Confined LeavesEdges :=
    Small.engine_confined fun _ _ => by simp [LeavesEdges]
  have callers : ∀ operation ∈ Small.overlapping,
      operation.Confined (fun _ => True) LeavesEdges := by
    simp [Small.overlapping, Small.act, Small.reserve, Operation.Confined, Program.Confined,
      LeavesEdges]
  have since : grantedAfter (Small.object "vm") (Small.object "a") past <:+ Small.overlap := by
    rw [← granted]
    exact List.drop_suffix _ _
  refine ⟨past, ⟨handlers, callers, List.suffix_refl _, since, Small.overlap_kept⟩, ?_⟩
  exact granted_stays_iff Small.engine 9 .none handlers callers (List.suffix_refl _) since
    Small.overlap_kept

end Provision
