import Provision.Proofs.Logging.Made

/-! # The log agrees with what happened

A filter that shows the engine makes the log of a run a faithful account of it. Whatever is reported stands in the
spans of the dispatches that are under way. A deletion is logged for each record that a dispatch removes and for
nothing else, and so is a refusal for each delete that is refused because of the object's masters.
-/

namespace Provision

open Logging Run

/-- An operation that goes through an engine, or to a resource registered with it. -/
def Operation.Concerns (engine : Engine) : Operation → Prop
  | .program _ => True
  | .direct resource _ _ => resource ∈ engine.resources

/-- In an operation on a node a dispatch is made. -/
def Operation.Makes (engine : Engine) (depth : Nat) (node : Node) (dispatched : Dispatched) : Operation → Prop
  | .program body => Point.Makes engine ⟨depth, body, node⟩ dispatched
  | .direct resource key request => ∃ action, resource.action? request.action = some action ∧
      (dispatched = ⟨⟨resource.name, request.action, key⟩,
          (resource.dispatch (engine.run depth) key request node).1, node.history,
          (resource.dispatch (engine.run depth) key request node).2.history⟩ ∨
        Point.Handles engine depth resource action key request node dispatched)

namespace Engine

variable {engine : Engine}

/-- The node that an engine starts on, which it tells. -/
def ready (engine : Engine) (faults : FaultPlan) : Node :=
  ({ faults } : Node).marked (.reported (.engineReady engine.kinds))

/-- In one of these operations, each made when the one before it has ended, a dispatch is made. -/
def Makes (engine : Engine) (depth : Nat) (dispatched : Dispatched) : Node → List Operation → Prop
  | _, [] => False
  | node, operation :: operations => operation.Makes engine depth node dispatched ∨
      engine.Makes depth dispatched (engine.perform depth node operation) operations

theorem ready_told (faults : FaultPlan) : Tells [] (engine.ready faults).history [] := by
  have silent : (Mark.reported (.engineReady engine.kinds)).Silent := ⟨nofun, nofun⟩
  exact .entry (silent.uneventful [])

theorem ready_regular (faults : FaultPlan) : (engine.ready faults).Regular where
  sound := GuardTable.sound_empty
  traced := (Node.traced_start faults trivial).marked rfl trivial
  outside := rfl

variable (built : engine.Built) (depth : Nat) {node : Node} (regular : node.Regular)

include built regular

/-- What is told of one operation are the dispatches made in it. -/
theorem perform_told {operation : Operation} (concerns : operation.Concerns engine) : ∃ made,
    Tells node.history (engine.perform depth node operation).history made ∧
      (∀ dispatched, dispatched ∈ made ↔ operation.Makes engine depth node dispatched) ∧
        (engine.perform depth node operation).Sane := by
  cases operation with
  | program program =>
      obtain ⟨made, tells, exactly⟩ := tallied built depth program node regular
      exact ⟨made, tells, exactly, regular.toSane.run built rfl⟩
  | direct resource key request =>
      have shared := built.guards concerns
      have sane : (engine.perform depth node (.direct resource key request)).Sane :=
        regular.toSane.of_running (fun running =>
          running.dispatch shared trivial fun action _ => running.run_any built depth _) rfl
      cases described : resource.action? request.action with
      | none =>
          have undone : engine.perform depth node (.direct resource key request) = node := by
            simp only [perform, Resource.dispatch_eq, described]
            rfl
          -- An action that the resource does not have is refused before anything is done.
          refine ⟨[], undone.symm ▸ .nil _, fun dispatched => ⟨nofun, ?_⟩, sane⟩
          rintro ⟨action, described', -⟩
          cases described.symm.trans described'
      | some action =>
          have handled := tallied built depth (action.handler key request.payload)
          obtain ⟨made, tells, exactly⟩ := ends_dispatch_told built shared described handled regular.toSane
          refine ⟨made, tells, fun dispatched => ?_, sane⟩
          rw [exactly]
          constructor
          · exact fun makes => ⟨action, described, makes⟩
          · rintro ⟨action', described', makes⟩
            cases described.symm.trans described'
            exact makes

/-- What is told of a whole run are the dispatches made in it. -/
theorem serve_told {operations : List Operation}
    (concerns : ∀ operation ∈ operations, operation.Concerns engine) : ∃ made,
      Tells node.history (engine.serve depth node operations).history made ∧
        ∀ dispatched, dispatched ∈ made ↔ engine.Makes depth dispatched node operations := by
  induction operations generalizing node with
  | nil => exact ⟨[], .nil _, fun dispatched => ⟨nofun, False.elim⟩⟩
  | cons operation operations ih =>
      obtain ⟨first, others⟩ := List.forall_mem_cons.mp concerns
      obtain ⟨made, tells, exactly, sane⟩ := perform_told built depth regular first
      obtain ⟨later, tells', exactly'⟩ := ih (regular.of_tells sane tells) others
      refine ⟨made ++ later, tells.trans tells', fun dispatched => ?_⟩
      rw [List.mem_append, exactly, exactly']
      rfl

end Engine

section Moments

variable {history : List Mark}

theorem suffix_of_mem_reports {report : Report} (member : report ∈ reports history) : report.past <:+ history := by
  induction history with
  | nil => cases member
  | cons mark past ih =>
      have onward : report ∈ reports past → report.past <:+ mark :: past :=
        fun earlier => (ih earlier).trans (List.suffix_cons mark past)
      cases mark with
      | reported event =>
          rcases List.mem_append.mp member with earlier | last
          · exact onward earlier
          · rw [List.mem_singleton.mp last]
            exact List.suffix_cons _ past
      | began | ended | stored | noted => exact onward member

theorem suffix_of_mem_removals {removal : Removal} (member : removal ∈ removals history) :
    removal.past <:+ history := by
  induction history with
  | nil => cases member
  | cons mark past ih =>
      have onward : removal ∈ removals past → removal.past <:+ mark :: past :=
        fun earlier => (ih earlier).trans (List.suffix_cons mark past)
      cases mark with
      | stored call astray =>
          cases call with
          | remove key =>
              cases astray with
              | true => exact onward member
              | false =>
                  rw [removals] at member
                  split at member
                  · rcases List.mem_append.mp member with earlier | last
                    · exact onward earlier
                    · rw [List.mem_singleton.mp last]
                      exact List.suffix_cons _ past
                  · exact onward member
          | get | has | write | link | unlink | release | masters => exact onward member
      | began | ended | reported | noted => exact onward member

theorem forall₂_imp_of_mem {α β : Type} {R S : α → β → Prop} {as : List α} {bs : List β}
    (pairs : List.Forall₂ R as bs) (imp : ∀ a, ∀ b ∈ bs, R a b → S a b) : List.Forall₂ S as bs := by
  rw [List.forall₂_iff_zip] at pairs ⊢
  refine ⟨pairs.1, fun {a b} member => imp a b ?_ (pairs.2 member)⟩
  exact (List.of_mem_zip member).2

end Moments

namespace Logging

/-- A line tells of the removal of a record, in the dispatch of the delete of its object. -/
def Line.TellsRemoval (made : List Dispatched) (line : Line) (removal : Removal) : Prop :=
  ∃ span outer, spansAt made removal.past = span :: outer ∧ line = Line.inside .objectDeleted (span :: outer) ∧
    span.action = Resource.deleteAction ∧ span.object = removal.key

/-- A line tells of a delete that was refused because its object is in use. -/
structure Line.TellsRefusal (made : List Dispatched) (line : Line) (dispatched : Dispatched) : Prop where
  line : line = Line.inside .deleteRefused (dispatched.span :: spansAt made dispatched.before)
  deleting : dispatched.span.action = Resource.deleteAction
  result : dispatched.result = .error (.error (.objectInUse dispatched.span.object))

/-- How the log of a setup agrees with what was done, and with the dispatches that were made in it, listed in the
    order of their ends. -/
structure Agrees (config : Config) (filter : Filter) (history : List Mark) (made : List Dispatched) : Prop where
  /-- The log holds what the engine reported. -/
  shown : ∀ report ∈ config.reports history, report.event.ofEngine = true → filter.shows report = true
  /-- Events stand in the spans of the dispatches under way, innermost first, and in no others. -/
  events : (config.log filter (traceOf history)).filter Line.isEvent =
    ((config.reports history).filter filter.shows).map fun report =>
      Line.inside report.event (spansAt made report.past)
  /-- Deletions are told of the records that dispatches removed, one by one and in order. -/
  deleted : List.Forall₂ (Line.TellsRemoval made)
    ((config.log filter (traceOf history)).filter fun line => line.message = Event.message .objectDeleted)
    (removals history)
  /-- Refusals are told of the dispatches that were refused because their object is in use, one by one and in
      order. -/
  refused : List.Forall₂ (Line.TellsRefusal made)
    ((config.log filter (traceOf history)).filter fun line => line.message = Event.message .deleteRefused)
    (made.filter fun dispatched => isRefusal dispatched.result)
  /-- A deletion is told right after its removal, and a refusal right before the end of its dispatch. -/
  told : List.Forall₂ Deletes (moments .objectDeleted history) (removals history) ∧
    List.Forall₂ Rejects (moments .deleteRefused history)
      (made.filter fun dispatched => isRefusal dispatched.result)
  /-- Each dispatch began and ended in what was done. -/
  begun : ∀ dispatched ∈ made, dispatched.HasBegun ∧ dispatched.after <:+ history
  ordered : made.Pairwise Dispatched.Precedes
  /-- A dispatch under way that ends sooner is further in. -/
  nested : ∀ past, (made.filter (Dispatched.isUnderWay past)).Pairwise fun inner outer =>
    outer.before.length < inner.before.length ∧ inner.after.length < outer.after.length
  /-- At every moment just the spans of the dispatches under way are open. -/
  spans : ∀ past, past <:+ history → openSpans past = spansAt made past
  /-- A dispatch leaves no span open, and neither does the whole run. -/
  closed : openSpans history = [] ∧ ∀ dispatched ∈ made, openSpans dispatched.after = openSpans dispatched.before

end Logging

theorem Dispatched.Precedes.nested {inner outer : Dispatched} {past : List Mark} (precedes : inner.Precedes outer)
    (under : inner.isUnderWay past = true) (under' : outer.isUnderWay past = true) :
    outer.before.length < inner.before.length ∧ inner.after.length < outer.after.length := by
  simp only [isUnderWay, Bool.and_eq_true, decide_eq_true_eq] at under under'
  rcases precedes with early | inside
  · omega
  · exact inside

theorem Event.eq_of_message {event other : Event} (told : event = .objectDeleted ∨ event = .deleteRefused)
    (same : other.message = event.message) : other = event := by
  rcases told with rfl | rfl <;> cases other <;> first | rfl | simp [message] at same

namespace Tells

variable {history : List Mark} {made : List Dispatched} (tells : Tells [] history made)

include tells

theorem openSpans_eq {past : List Mark} (part : past <:+ history) : openSpans past = spansAt made past := by
  rw [tells.spans List.nil_suffix part]
  exact List.append_nil _

theorem deletions : List.Forall₂ Deletes (moments .objectDeleted history) (removals history) := by
  obtain ⟨told, gone, same, same', pairs⟩ := tells.told_deleted
  rw [same, same']
  exact pairs

theorem refusals : List.Forall₂ Rejects (moments .deleteRefused history)
    (made.filter fun dispatched => isRefusal dispatched.result) := by
  obtain ⟨told, same, pairs⟩ := tells.told_refused
  rw [same]
  exact pairs

/-- A history that tells of dispatches is logged in agreement with them. -/
theorem agrees {filter : Filter} (shown : filter.ShowsEngine) (config : Config) :
    Agrees config filter history made := by
  have begun := fun dispatched member => (tells.bounds dispatched member).2
  refine
    { shown := fun report _ engine => shown.shows_of_engine engine
      events := ?_
      deleted := ?_
      refused := ?_
      told := ⟨tells.deletions, tells.refusals⟩
      begun := begun
      ordered := tells.pairwise
      nested := fun past => ?_
      spans := fun past part => tells.openSpans_eq part
      closed := ⟨tells.open_eq.2, tells.closed⟩ }
  · rw [shown.log]
    refine List.map_congr_left fun report member => ?_
    have part : report.past <:+ history := by
      rcases List.mem_cons.mp (List.mem_filter.mp member).1 with rfl | told
      · exact List.nil_suffix
      · exact suffix_of_mem_reports told
    rw [tells.openSpans_eq part]
  · rw [shown.log_of_message config history rfl fun _ => Event.eq_of_message (.inl rfl), List.forall₂_map_left_iff]
    refine forall₂_imp_of_mem tells.deletions fun moment removal member deletes => ?_
    obtain ⟨span, outer, inside, deleting, object⟩ := deletes.inside
    have around := (tells.openSpans_eq (suffix_of_mem_removals member)).symm.trans inside
    exact ⟨span, outer, around, by rw [deletes.spans, inside], deleting, object⟩
  · rw [shown.log_of_message config history rfl fun _ => Event.eq_of_message (.inr rfl), List.forall₂_map_left_iff]
    refine forall₂_imp_of_mem tells.refusals fun moment dispatched member rejects => ?_
    refine ⟨?_, rejects.deleting, rejects.result⟩
    obtain ⟨began, part⟩ := begun dispatched (List.mem_filter.mp member).1
    rw [rejects.spans, tells.openSpans_eq (began.before.trans part)]
  · refine (tells.pairwise.filter _).imp_of_mem fun member member' precedes => ?_
    exact precedes.nested (List.mem_filter.mp member).2 (List.mem_filter.mp member').2

end Tells

/-- The log of every run of an engine, be it logged down to debug level for the engine or further, agrees with
    what happened: with the dispatches that the run made, whatever failed or panicked, and with the records
    that they removed. -/
theorem log_agrees {engine : Engine} (built : engine.Built) (depth : Nat) (faults : FaultPlan)
    {operations : List Operation} (concerns : ∀ operation ∈ operations, operation.Concerns engine)
    (config : Config) {filter : Filter} (shown : filter.ShowsEngine) : ∃ made,
      (∀ dispatched, dispatched ∈ made ↔ engine.Makes depth dispatched (engine.ready faults) operations) ∧
        Agrees config filter (engine.serve depth (engine.ready faults) operations).history made := by
  obtain ⟨made, tells, exactly⟩ := engine.serve_told built depth (engine.ready_regular faults) concerns
  exact ⟨made, exactly, ((engine.ready_told faults).trans tells).agrees shown config⟩

namespace Small

/-- Deletes a disk and panics. -/
def clear : Handler := fun _ _ =>
  .call ⟨1, "space", "disk", { action := "delete", object := "a" }⟩ fun _ => .panic "clear"

/-- A kind with an action that deletes a disk and panics. -/
def rack : Resource where
  name := "rack"
  flags := .shareable
  actions := [("clear", ⟨clear, .create⟩)]
  guards := .shared

/-- Disks, networks and racks. -/
def racks : Engine where
  resources := engine.resources ++ [rack]

theorem racks_built : racks.Built := by
  have described : ({ name := "rack", flags := .shareable } : Resource).withAction "clear" clear .create =
      .ok { name := "rack", flags := .shareable, actions := [("clear", ⟨clear, .create⟩)] } := rfl
  exact .withResource engine_built (.withAction (.new "rack" .shareable) described) rfl

/-- A network that is in use is not deleted, and a disk is deleted by a rack. -/
def cleared : List Operation :=
  [.program (act "disk" "create" "a"), .program (act "network" "create" "n"),
    .program (reserve "vm" "n" (.done (.ok .null)) (.ok .null)), .program (act "network" "delete" "n"),
    .direct rack (object "r") { action := "clear", object := "r" }]

/-- What gets into the log if the engine is logged down to debug level. -/
def engineFilter : Filter := ⟨[{ target := "gridnode_engine".toList, threshold := some .debug }]⟩

end Small

/-- A refusal, and a deletion in a dispatch that panics. -/
theorem log_agrees_cleared :
    (Small.racks.Built ∧ (∀ operation ∈ Small.cleared, operation.Concerns Small.racks) ∧
      Filter.parse "gridnode_engine=debug" = .ok Small.engineFilter ∧ Small.engineFilter.ShowsEngine) ∧
    ((Config.log {} Small.engineFilter
        (traceOf (Small.racks.serve 9 (Small.racks.ready .none) Small.cleared).history)).filter fun line =>
          line.level = .warn ∨ line.level = .info) =
      [Line.inside (.engineReady Small.racks.kinds) [],
        Line.inside .deleteRefused [⟨"network", "delete", Small.object "n"⟩],
        Line.inside .objectDeleted [⟨"disk", "delete", Small.object "a"⟩, ⟨"rack", "clear", Small.object "r"⟩]] ∧
    ∃ made, (∀ dispatched, dispatched ∈ made ↔
        Small.racks.Makes 9 dispatched (Small.racks.ready .none) Small.cleared) ∧
      Agrees {} Small.engineFilter (Small.racks.serve 9 (Small.racks.ready .none) Small.cleared).history made := by
  have concerns : ∀ operation ∈ Small.cleared, operation.Concerns Small.racks := by
    simp [Small.cleared, Operation.Concerns, Small.racks]
  have shown : Small.engineFilter.ShowsEngine := Filter.showsEngine_single (by decide) (by decide)
  refine ⟨⟨Small.racks_built, concerns, ?_, shown⟩, ?_, log_agrees Small.racks_built 9 .none concerns {} shown⟩
  · decide +kernel
  · decide +kernel

end Provision
