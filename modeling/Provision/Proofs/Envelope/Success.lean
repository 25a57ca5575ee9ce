import Provision.Proofs.Engine.Assembly
import Provision.Proofs.Engine.Dispatch
import Provision.Proofs.Envelope.Wire

/-! # What a response tells of success

A response does not keep whether the action succeeded: it is told from the wording of the failure, here
and on the wire. Every failure has a wording, except one that the handler puts in words of its own and
puts in none. That one is told as a success, and a delete that failed so is told as one, although its
object is still there.
-/

namespace Provision

open Run Node

theorem append_ne_empty {front : String} (words : front ≠ "") (back : String) : front ++ back ≠ "" := by
  simp [words]

theorem StoreError.message_ne_empty (error : StoreError) : error.message ≠ "" := by
  cases error with
  | notFound | backend => exact append_ne_empty (by decide) _

theorem EngineError.message_ne_empty (error : EngineError) : error.message ≠ "" := by
  cases error with
  | store cause => exact cause.message_ne_empty
  | actionNotFound | resourceNotFound | objectExists | objectDoesNotExist | objectInUse =>
      exact append_ne_empty (by decide) _
  | encode => exact append_ne_empty (append_ne_empty (append_ne_empty (by decide) _) _) _
  | dependencyCycle =>
      iterate 4 refine append_ne_empty ?_ _
      decide
  | decode =>
      iterate 5 refine append_ne_empty ?_ _
      decide
  | objectInvalidType =>
      iterate 6 refine append_ne_empty ?_ _
      decide

/-- Only a handler's own words may be none. -/
theorem ActionError.message_eq_empty_iff {error : ActionError} :
    error.message = "" ↔ error = .failed "" := by
  cases error with
  | failed reason => exact ⟨congrArg ActionError.failed, ActionError.failed.inj⟩
  | engine cause => exact iff_of_false cause.message_ne_empty ActionError.noConfusion
  | invalidPayload | invalidOutput =>
      exact iff_of_false (append_ne_empty (by decide) _) ActionError.noConfusion

namespace Response

/-- The response that tells of an outcome. -/
def ofOutcome : Outcome → Response
  | .ok output => { payload := some output }
  | .error error => { error := error.message }

theorem isSuccess_ofOutcome {outcome : Outcome} : (ofOutcome outcome).isSuccess = true ↔
    (∃ output, outcome = .ok output) ∨ outcome = .error (.failed "") := by
  cases outcome with
  | ok output => simp [ofOutcome, isSuccess]
  | error error => simp [ofOutcome, isSuccess, ActionError.message_eq_empty_iff]

end Response

namespace Resource

/-- In a dispatch that starts on a node, the handler of an action runs and has this outcome. The lock,
    the checks and the run are what they are for the node, so there is one outcome at most. -/
structure Ran (resource : Resource) (run : Program → Run ActionError RawJson) (key : ObjectKey)
    (request : Request) (node : Node) (action : Action) (outcome : Outcome) (done : Node) : Prop where
  described : resource.action? request.action = some action
  ran : ∃ hold held mid,
    (node.table resource.guards).take? key.text action.flags.mode = some (hold, held) ∧
    resource.checkTarget request.action action.flags key
      ((node.marked (.began (resource.dispatchFrame key request action))).withTable resource.guards
        held) = (.ok (), mid) ∧
    run (action.handler key request.payload)
      (mid.marked (.began (resource.handlerFrame key request action))) =
        (outcome.mapError Halt.error, done)

variable {resource : Resource} {run : Program → Run ActionError RawJson} {key : ObjectKey}
  {request : Request} {node after : Node} {response : Response}

theorem Ran.unique {action action' : Action} {outcome outcome' : Outcome} {done done' : Node}
    (ran : resource.Ran run key request node action outcome done)
    (also : resource.Ran run key request node action' outcome' done') :
    action' = action ∧ outcome' = outcome ∧ done' = done := by
  obtain ⟨described, hold, held, mid, taken, passed, ends⟩ := ran
  obtain ⟨described', hold', held', mid', taken', passed', ends'⟩ := also
  cases described.symm.trans described'
  cases taken.symm.trans taken'
  cases passed.symm.trans passed'
  have same := ends.symm.trans ends'
  cases outcome <;> cases outcome' <;> cases same <;> exact ⟨rfl, rfl, rfl⟩

/-- A response tells of the outcome of the handler. The record is removed just by a delete whose handler
    succeeded. -/
theorem dispatch_eq_ok (returned : resource.dispatch run key request node = (.ok response, after)) :
    ∃ action outcome done, resource.Ran run key request node action outcome done ∧
      response = .ofOutcome outcome ∧
      match outcome with
      | .ok _ => request.action = deleteAction →
          done.store.hasRecord key = true ∧ after.store.hasRecord key = false
      | .error _ => after.store.hasRecord key = done.store.hasRecord key := by
  rw [dispatch_eq] at returned
  split at returned
  next unknown => cases returned
  next action described =>
    obtain ⟨last, locked, rfl⟩ := within_eq_ok returned
    obtain ⟨hold, held, inner, left, taken, checked, rfl⟩ := guarded_eq_ok locked
    obtain ⟨⟨⟩, mid, passed, handled⟩ := bind_eq_ok checked
    obtain ⟨outcome, closed, attempted, closes⟩ := bind_eq_ok handled
    obtain ⟨ending, done, ran, same, rfl⟩ := ends_attempt_within.of_eq attempted
    obtain rfl := caught_eq_ok same.symm
    refine ⟨action, outcome, done, ⟨described, hold, held, mid, taken, passed, ran⟩, ?_⟩
    cases outcome with
    | ok output =>
        obtain ⟨rfl, course⟩ := ends_afterSuccess.of_eq closes
        refine ⟨rfl, fun deleting => ?_⟩
        obtain ⟨other, -⟩ | ⟨-, present, removed⟩ := course
        · exact absurd deleting other
        · refine ⟨present, ?_⟩
          rw [Node.marked, store_withTable, removed.store, MemoryStore.hasRecord_eq,
            MemoryStore.record?_after]
          simp
    | error error =>
        obtain ⟨rfl, course⟩ := ends_afterFailure.of_eq closes
        refine ⟨rfl, ?_⟩
        dsimp only
        rw [Node.marked, store_withTable]
        obtain ⟨asked, -⟩ | ⟨-, released, -⟩ := course
        · exact congrArg (·.hasRecord key) asked.store
        · rw [released.store, MemoryStore.hasRecord_eq, MemoryStore.record?_after,
            ← MemoryStore.hasRecord_eq]
          rfl

end Resource

/-- A response that a dispatch returns is one of success just if its handler succeeded, or failed without a
    word; and so is what it is read back as from the wire. For a delete that is: just if the record was
    removed after the handler, or the handler failed without a word. -/
theorem returned_isSuccess_iff {resource : Resource} {run : Program → Run ActionError RawJson}
    {key : ObjectKey} {request : Request} {node after : Node} {response : Response}
    (returned : resource.dispatch run key request node = (.ok response, after))
    (texts : ∀ raw ∈ response.payload, raw.WellFormed) :
    ∃ action outcome done, resource.Ran run key request node action outcome done ∧
      (response.isSuccess = true ↔
        (∃ output, outcome = .ok output) ∨ outcome = .error (.failed "")) ∧
      (∃ decoded, Response.decode? response.encode = some decoded ∧
        decoded.isSuccess = response.isSuccess) ∧
      (request.action = Resource.deleteAction → (response.isSuccess = true ↔
        done.store.hasRecord key = true ∧ after.store.hasRecord key = false ∨
          outcome = .error (.failed ""))) := by
  obtain ⟨action, outcome, done, ran, rfl, record⟩ := Resource.dispatch_eq_ok returned
  refine ⟨action, outcome, done, ran, Response.isSuccess_ofOutcome,
    ⟨_, Response.decode?_encode texts, rfl⟩, fun deleting => ?_⟩
  rw [Response.isSuccess_ofOutcome]
  refine or_congr_left ?_
  cases outcome with
  | ok output => exact iff_of_true ⟨output, rfl⟩ (record deleting)
  | error error =>
      refine iff_of_false (fun succeeded => nomatch succeeded) fun both => ?_
      rw [both.1, both.2] at record
      cases record

namespace Small

/-- Deleting fails, and nothing is said about it. -/
def sullen : Resource where
  name := "disk"
  flags := .exclusive
  actions := [(Resource.deleteAction, ⟨fun _ _ => .done (.error (.failed "")), .exclusive⟩)]

def equipped : Node where
  store := (engine.serve 9 .empty [.program (act "disk" "create" "a")]).store

def unsaid : Except (Halt EngineError) Response × Node :=
  sullen.dispatch (engine.run 9) (object "a") { action := Resource.deleteAction, object := "a" }
    equipped

theorem unsaid_fst : unsaid.1 = .ok {} := by decide +kernel

end Small

/-- The deletion failed and the disk is still there, and still it is told as a success, also after it has
    gone over the wire. -/
theorem failed_delete_told_as_success :
    (∃ action, Small.sullen.action? Resource.deleteAction = some action ∧
      action.handler (Small.object "a") .null = .done (.error (.failed ""))) ∧
    Small.equipped.store.hasRecord (Small.object "a") = true ∧
    Small.unsaid.1 = .ok {} ∧ ({} : Response).isSuccess = true ∧
    (Response.decode? ({} : Response).encode).map Response.isSuccess = some true ∧
    Small.unsaid.2.store.hasRecord (Small.object "a") = true :=
  ⟨⟨_, rfl, rfl⟩, by decide +kernel, Small.unsaid_fst, rfl, by decide +kernel, by decide +kernel⟩

/-- The general statement for this deletion: what is told as a success, with the record kept, is a failure
    without a word. -/
theorem returned_isSuccess_iff_unsaid :
    (Small.unsaid.1 = .ok {} ∧ ∀ raw ∈ ({} : Response).payload, raw.WellFormed) ∧
    ∃ action done, Small.sullen.Ran (Small.engine.run 9) (Small.object "a")
      { action := Resource.deleteAction, object := "a" } Small.equipped action (.error (.failed ""))
      done := by
  have returned : Small.unsaid = (.ok {}, Small.unsaid.2) := by rw [← Small.unsaid_fst]
  have texts : ∀ raw ∈ ({} : Response).payload, raw.WellFormed := fun _ none => nomatch none
  refine ⟨⟨Small.unsaid_fst, texts⟩, ?_⟩
  obtain ⟨action, outcome, done, ran, -, -, deleted⟩ := returned_isSuccess_iff returned texts
  obtain ⟨-, removed⟩ | rfl := (deleted rfl).mp rfl
  · have kept : Small.unsaid.2.store.hasRecord (Small.object "a") = true := by decide +kernel
    exact absurd (kept.symm.trans removed) nofun
  · exact ⟨action, done, ran⟩

end Provision
