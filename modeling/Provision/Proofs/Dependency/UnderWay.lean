import Provision.Proofs.Engine.Framing

/-! # The dependency operations under way

A history tells which dependency operations have begun and not ended, one in the scope of the other,
and which edge each of them has recorded. With that it tells who records and who takes away an edge:
a reservation records only an edge that is not there, and takes away only what it recorded itself.
-/

namespace Provision

open Run Node

/-- A dependency operation that has begun, and the edge that it recorded. -/
structure Pending where
  change : DependencyChange
  recorded : Option (ObjectKey × ObjectKey) := none
  deriving DecidableEq

/-- The dependency operations under way after one more entry of a history, innermost first. -/
def Mark.advance : Mark → List Pending → List Pending
  | .began (.dependency change _), pending => { change } :: pending
  | .ended (.dependency ..), pending => pending.tail
  | .stored (.link master slave) false, first :: rest =>
    { first with recorded := some (master, slave) } :: rest
  | _, pending => pending

/-- The dependency operations under way after a history, innermost first. -/
def underWay (past : List Mark) : List Pending := past.foldr Mark.advance []

theorem underWay_cons {mark : Mark} {past : List Mark} :
    underWay (mark :: past) = mark.advance (underWay past) := rfl

theorem Mark.Idle.advance {mark : Mark} (idle : mark.Idle) (pending : List Pending) :
    mark.advance pending = pending := by
  cases mark with
  | stored call astray =>
      cases astray with
      | true => cases call <;> rfl
      | false =>
          cases call with
          | get | has | masters => rfl
          | write | remove | link | unlink | release =>
              exact idle.elim Bool.false_ne_true.elim False.elim
  | began | ended => exact idle.elim
  | reported | noted => rfl

theorem underWay_idle {marks past : List Mark} (idle : ∀ mark ∈ marks, mark.Idle) :
    underWay (marks ++ past) = underWay past :=
  same_idle (fun _ past known => known.advance (underWay past)) idle

theorem Node.Consulted.underWay {node after : Node} (asked : Consulted node after) :
    underWay after.history = underWay node.history := by
  obtain ⟨marks, told, idle⟩ := asked.history
  rw [told, underWay_idle idle]

theorem Node.Performed.underWay {node after : Node} {call : StoreCall}
    (done : Performed call node after) :
    underWay after.history = (Mark.stored call false).advance (underWay node.history) := by
  obtain ⟨later, earlier, told, idle, idle'⟩ := done.history
  rw [told, underWay_idle idle, underWay_cons, underWay_idle idle']

/-- A dependency operation leaves what was under way as it was if what it does under the lock only
    records something for the operation itself. -/
theorem ends_dependency {ε α : Type} {P : Node → Prop} {change : DependencyChange} {slave : ObjectKey}
    {locked : Run ε α} (began : ∀ node, P node → P (node.marked (.began (.dependency change slave))))
    (ended : ∀ node, P node → P (node.marked (.ended (.dependency change slave))))
    (table : ∀ node table, P node → P (node.withTable .shared table))
    (runs : ∀ node rest, P node → underWay node.history = { change } :: rest →
      locked.Ends node fun _ after => P after ∧ ∃ first, underWay after.history = first :: rest)
    {node : Node} (start : P node) :
    (within (.dependency change slave) (guarded .shared slave .shared locked)).Ends node fun _ after =>
      P after ∧ underWay after.history = underWay node.history := by
  have closes : ∀ {after : Node} {first}, P after →
      underWay after.history = first :: underWay node.history →
        P (after.marked (.ended (.dependency change slave))) ∧
          underWay (after.marked (.ended (.dependency change slave))).history =
            underWay node.history := by
    intro after first last told
    refine ⟨ended after last, ?_⟩
    rw [Node.marked, underWay_cons, told]
    rfl
  have begun := began node start
  rw [ends_within, ends_guarded]
  split
  · exact closes begun rfl
  · next hold held _ =>
      refine (runs _ _ (table _ held begun) rfl).imp fun result after ⟨last, first, told⟩ => ?_
      split
      · next left _ => exact closes (table after left last) told
      · exact closes last told

/-- The last thing done was right in what it did to an edge: an edge was recorded that was not there,
    or it was taken away in a release, or by the reservation that had recorded it. -/
def Warranted : List Mark → Prop
  | .stored (.link master slave) false :: past => ¬(storeAfter past).Relies master slave
  | .stored (.unlink master slave) false :: past =>
    ∃ pending rest, underWay past = pending :: rest ∧
      (pending.change = .add → pending.recorded = some (master, slave))
  | _ => True

/-- What an actor may do if it is to leave the ledger to the engine. -/
def LeavesEdges (_ : Actor) (deed : Deed) : Prop :=
  (∀ master slave, deed ≠ .store (.link master slave)) ∧
    (∀ master slave, deed ≠ .store (.unlink master slave)) ∧
      ∀ master, deed ≠ .store (.release master)

/-- Everything was warranted, and the operations under way are those that were before. -/
def KeepsWarranted (node after : Node) : Prop :=
  node.Traced Warranted →
    after.Traced Warranted ∧ underWay after.history = underWay node.history

/-- A frame of a dispatch or of a scope, not the one of a dependency operation. -/
def Frame.Inner : Frame → Prop
  | .dependency .. => False
  | .dispatch .. | .handler .. | .scope .. => True

namespace KeepsWarranted

variable {node mid after : Node} {call : StoreCall} {master slave : ObjectKey} {resource : Resource}
  {body : Run ActionError RawJson} {pending : Pending} {rest : List Pending}

theorem idle (mark : Mark) (past : List Mark) (idle : mark.Idle) (_ : Warranted past) :
    Warranted (mark :: past) := by
  cases mark with
  | stored call astray =>
      cases astray with
      | true => cases call <;> exact trivial
      | false =>
          cases call with
          | get | has | masters => exact trivial
          | write | remove | link | unlink | release =>
              exact idle.elim Bool.false_ne_true.elim False.elim
  | began | ended | reported | noted => exact trivial

theorem performed (done : Performed call node after) (traced : node.Traced Warranted)
    (warranted : ∀ past, storeAfter past = node.store → underWay past = underWay node.history →
      Warranted (.stored call false :: past)) : after.Traced Warranted := by
  refine done.traced idle traced fun past store extends' _ => warranted past store ?_
  obtain ⟨earlier, rfl, asked⟩ := extends'
  exact underWay_idle asked

/-- Orders that are not about single edges need no warrant. -/
theorem ordered (done : Performed call node after) (links : ∀ m s, call ≠ .link m s)
    (unlinks : ∀ m s, call ≠ .unlink m s) : KeepsWarranted node after := by
  intro traced
  refine ⟨performed done traced fun past _ _ => ?_, done.underWay.trans ?_⟩
  · cases call with
    | link m s => exact absurd rfl (links m s)
    | unlink m s => exact absurd rfl (unlinks m s)
    | get | has | write | remove | release | masters => exact trivial
  · cases call with
    | link m s => exact absurd rfl (links m s)
    | get | has | write | remove | unlink | release | masters => rfl

theorem lockless : Lockless Frame.Inner KeepsWarranted where
  refl _ traced := ⟨traced, rfl⟩
  trans _ _ _ first second traced := by
    obtain ⟨between, before⟩ := first traced
    obtain ⟨last, after⟩ := second between
    exact ⟨last, after.trans before⟩
  consulted asked traced := ⟨asked.traced idle traced, asked.underWay⟩
  began node frame inner traced := by
    refine ⟨traced.marked rfl trivial, ?_⟩
    cases frame with
    | dependency => exact inner.elim
    | dispatch | handler | scope => rfl
  ended node frame inner traced := by
    refine ⟨traced.marked rfl trivial, ?_⟩
    cases frame with
    | dependency => exact inner.elim
    | dispatch | handler | scope => rfl
  table _ _ _ traced := ⟨traced.withTable, by rw [history_withTable]⟩

/-! ## Dependency operations -/

/-- What is recorded by a reservation is recorded for it. -/
theorem checked {recorded : Bool} (start : underWay node.history = pending :: rest)
    (known : Checked resource master slave node (.ok recorded) mid) (traced : node.Traced Warranted) :
    mid.Traced Warranted ∧ underWay mid.history = { pending with
      recorded := if recorded then some (master, slave) else pending.recorded } :: rest := by
  cases known with
  | present _ reserved =>
      cases reserved with
      | known asked =>
          obtain ⟨after, same⟩ := lockless.consulted asked traced
          exact ⟨after, same.trans start⟩
      | recorded done _ new =>
          refine ⟨performed done traced fun past store _ => ?_, ?_⟩
          · rw [← store] at new
            exact new
          · rw [done.underWay, start]
            rfl

theorem reserves (keeps : Keeps KeepsWarranted body)
    (start : underWay node.history = { change := .add } :: rest)
    (course : Engine.Reserves resource master slave body node after)
    (traced : node.Traced Warranted) :
    after.Traced Warranted ∧ ∃ first, underWay after.history = first :: rest := by
  cases course with
  | refused known =>
      obtain ⟨last, same⟩ := lockless.consulted known.asked traced
      exact ⟨last, _, same.trans start⟩
  | kept known ran asked =>
      obtain ⟨between, told⟩ := checked start known traced
      have scope := lockless.framed keeps (.refl _) ran trivial
      obtain ⟨last, same⟩ := lockless.trans scope (lockless.consulted asked) between
      exact ⟨last, _, same.trans told⟩
  | withdrawn known ran undone =>
      obtain ⟨between, told⟩ := checked start known traced
      have scope := lockless.framed keeps (.refl _) ran trivial
      obtain ⟨before, same⟩ := scope between
      refine ⟨performed undone before fun past _ still => ?_, ?_⟩
      · exact ⟨_, rest, still.trans (same.trans told), fun _ => rfl⟩
      · exact ⟨_, undone.underWay.trans (same.trans told)⟩

theorem releases (keeps : Keeps KeepsWarranted body)
    (start : underWay node.history = { change := .remove } :: rest)
    (course : Engine.Releases master slave body node after) (traced : node.Traced Warranted) :
    after.Traced Warranted ∧ ∃ first, underWay after.history = first :: rest := by
  cases course with
  | failed ran asked =>
      have scope := lockless.framed keeps (.refl _) ran trivial
      obtain ⟨last, same⟩ := lockless.trans scope (lockless.consulted asked) traced
      exact ⟨last, _, same.trans start⟩
  | released ran undone =>
      have scope := lockless.framed keeps (.refl _) ran trivial
      obtain ⟨before, same⟩ := scope traced
      refine ⟨performed undone before fun past _ still => ?_, ?_⟩
      · exact ⟨_, rest, still.trans (same.trans start), fun adding => nomatch adding⟩
      · exact ⟨_, undone.underWay.trans (same.trans start)⟩

/-- What a dependency operation does under the lock has to be warranted. -/
theorem within {ε α : Type} {change : DependencyChange} {locked : Run ε α}
    (runs : ∀ node rest, node.Traced Warranted → underWay node.history = { change } :: rest →
      locked.Ends node fun _ after =>
        after.Traced Warranted ∧ ∃ first, underWay after.history = first :: rest) :
    Keeps KeepsWarranted
      (within (.dependency change slave) (guarded .shared slave .shared locked)) := by
  intro node traced
  refine ends_dependency (fun _ traced => traced.marked rfl trivial) (fun _ traced => traced.marked rfl trivial)
    (fun node table traced => ?_) runs traced
  exact (lockless.table node .shared table traced).1

theorem addDependency {engine : Engine} (keeps : Keeps KeepsWarranted body) :
    Keeps KeepsWarranted (engine.addDependency master slave body) := by
  refine lockless.addDependency fun node resource record _ _ _ => within (fun node rest traced start => ?_) node
  exact (Engine.ends_holdReservation traced.paired).imp fun _ after course =>
    reserves keeps start course traced

theorem removeDependency {engine : Engine} (keeps : Keeps KeepsWarranted body) :
    Keeps KeepsWarranted (engine.removeDependency master slave body) := by
  refine lockless.removeDependency (within fun node rest traced start => ?_)
  exact Engine.ends_holdRelease.imp fun _ after course => releases keeps start course traced

theorem upheld (engine : Engine) :
    Upheld engine (fun _ => True) LeavesEdges fun _ => KeepsWarranted where
  refl _ := lockless.refl
  trans first second := lockless.trans first second
  note _ node told := lockless.consulted (.marked trivial)
  ask _ call may node := by
    refine ends_ask (fun _ _ _ => lockless.consulted) fun after done => ordered done ?_ ?_
    · exact fun m s same => may.1 m s (by rw [same])
    · exact fun m s same => may.2.1 m s (by rw [same])
  dispatch _ resource run key request _ handled := by
    refine lockless.dispatch (fun _ _ => trivial) (fun _ _ => trivial) ?_ ?_ handled
    · exact fun done => ordered done (fun _ _ same => nomatch same) fun _ _ same => nomatch same
    · exact fun done => ordered done (fun _ _ same => nomatch same) fun _ _ same => nomatch same
  add _ _ _ _ _ := addDependency
  remove _ _ _ _ _ := removeDependency

end KeepsWarranted

/-- In every run from an empty store that leaves the ledger to the engine, each change to an edge is
    warranted by what is under way at that moment. -/
theorem serve_warranted (engine : Engine) (depth : Nat) (faults : FaultPlan)
    {operations : List Operation}
    (handlers : ∀ resource ∈ engine.resources, resource.Confined LeavesEdges)
    (callers : ∀ operation ∈ operations, operation.Confined (fun _ => True) LeavesEdges) :
    (engine.serve depth { faults } operations).Traced Warranted :=
  ((KeepsWarranted.upheld engine).serve (fun _ _ => trivial) handlers depth { faults } callers
    (traced_start faults trivial)).1

end Provision
