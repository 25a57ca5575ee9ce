import Provision.Proofs.Engine.Dispatch
import Provision.Proofs.Logging.Account

/-! # What the parts of a dispatch tell

Most of what the engine does is of no concern to the log: it asks, and reports what is neither a refusal nor a
removal. The checks in front of a handler refuse a delete at their very end, and what follows a handler that
succeeded removes a record and tells that at its very end.
-/

namespace Provision

open Run Node

/-- What was done tells of no frame, no refusal and no removal. -/
def Silent (node after : Node) : Prop :=
  ∃ marks, after.history = marks ++ node.history ∧ ∀ mark ∈ marks, mark.Silent

namespace Silent

variable {node mid after : Node}

theorem refl (node : Node) : Silent node node := ⟨[], rfl, nofun⟩

theorem trans (first : Silent node mid) (second : Silent mid after) : Silent node after := by
  obtain ⟨marks, told, silent⟩ := first
  obtain ⟨later, told', silent'⟩ := second
  refine ⟨later ++ marks, by rw [told', told, List.append_assoc], fun mark member => ?_⟩
  exact (List.mem_append.mp member).elim (silent' mark) (silent mark)

theorem marked {mark : Mark} (silent : mark.Silent) : Silent node (node.marked mark) :=
  ⟨[mark], rfl, by simpa using silent⟩

theorem tells (silent : Silent node after) : Tells node.history after.history [] := by
  obtain ⟨marks, told, quiet⟩ := silent
  rw [told]
  exact tells_of_silent quiet _

theorem then_tells {now : List Mark} {made : List Dispatched} (silent : Silent node mid)
    (tells : Tells mid.history now made) : Tells node.history now made := silent.tells.trans tells

end Silent

theorem Tells.then_silent {node after : Node} {past : List Mark} {made : List Dispatched}
    (tells : Tells past node.history made) (silent : Silent node after) : Tells past after.history made := by
  rw [← List.append_nil made]
  exact tells.trans silent.tells

/-- What the store reports tells of no refusal and no deletion. -/
theorem Node.silent_reports {node : Node} {call : StoreCall} {event : Event} (reported : event ∈ node.reports call) :
    (Mark.reported event).Silent := by
  cases call with
  | remove key =>
      simp only [Node.reports] at reported
      split at reported
      · rw [List.mem_singleton.mp reported]
        exact ⟨nofun, nofun⟩
      · cases reported
  | get | has | write | link | unlink | release | masters => cases reported

namespace Run

variable {ε α : Type} {node : Node} {call : StoreCall}

/-- A call is told of, and if it is carried out, so is what the store reports about it. -/
theorem ends_ask_told : (ask call : Run ε _).Ends node fun result after =>
    (∃ fault : Fault, result = .ok (fault.answer call)) ∧ after.history = .stored call true :: node.history ∨
      result = .ok (node.store.answer call).1 ∧ ∃ told : List Mark,
        after.history = told ++ .stored call false :: node.history ∧ ∀ mark ∈ told, mark.Silent := by
  simp only [Ends, ask]
  cases node.faults.next call.operation with
  | some fault => exact .inl ⟨⟨fault, rfl⟩, rfl⟩
  | none =>
      refine .inr ⟨rfl, _, rfl, fun mark member => ?_⟩
      obtain ⟨event, reported, rfl⟩ := List.mem_map.mp (List.mem_reverse.mp member)
      exact silent_reports reported

theorem ends_ask_silent (other : ∀ key, call ≠ .remove key) : (ask call : Run ε _).Ends node fun result after =>
    (∃ reply, result = .ok reply) ∧ Silent node after := by
  refine ends_ask_told.imp fun result after course => ?_
  rcases course with ⟨⟨fault, rfl⟩, told⟩ | ⟨rfl, told, history, silent⟩
  · exact ⟨⟨_, rfl⟩, [_], told, by simp [Mark.Silent]⟩
  · refine ⟨⟨_, rfl⟩, told ++ [.stored call false], by simp [history], fun mark member => ?_⟩
    rcases List.mem_append.mp member with reported | asked
    · exact silent mark reported
    · rw [List.mem_singleton.mp asked]
      exact .inr other

theorem silent_ask (other : ∀ key, call ≠ .remove key) : Keeps Silent (ask call : Run ε _) :=
  fun _ => (ends_ask_silent other).imp fun _ _ both => both.2

theorem silent_composed : Composed fun body => Keeps Silent body := Keeps.composed Silent.refl @Silent.trans

theorem silent_report {event : Event} (other : event ≠ .objectDeleted ∧ event ≠ .deleteRefused) :
    Keeps Silent (report event : Run ε Unit) := fun _ => Silent.marked other

theorem silent_demand (other : ∀ key, call ≠ .remove key) : Keeps Silent (demand call) := by
  refine silent_composed.bind (silent_ask other) fun reply => ?_
  cases reply with
  | ok answer => exact silent_composed.pure answer
  | error cause => exact silent_composed.fail _

theorem ends_demand_told (other : ∀ key, call ≠ .remove key) : (demand call).Ends node fun result after =>
    isRefusal result = false ∧ Silent node after := by
  refine (ends_ask_silent other).bind (fun reply after both => ?_) fun halt after both => ?_
  · cases reply with
    | ok answer => exact ⟨rfl, both.2⟩
    | error cause => exact ⟨rfl, both.2⟩
  · obtain ⟨⟨_, same⟩, -⟩ := both
    cases same

theorem isRefusal_of_caught {ε' : Type} {outcome : Except (Halt ε') α} {halt : Halt EngineError}
    (stopped : caught outcome = (.error halt : Except (Halt EngineError) (Except ε' α))) : halt.isRefusal = false := by
  cases outcome with
  | ok => cases stopped
  | error halt => cases halt <;> cases stopped <;> rfl

/-- A record is removed, or there is none, or the store fails. -/
theorem ends_demand_remove {key : ObjectKey} (known : storeAfter node.history = node.store) :
    (demand (.remove key)).Ends node fun result after =>
      match result with
      | .ok _ => node.store.hasRecord key = true ∧ ∃ told : List Mark,
          after.history = told ++ .stored (.remove key) false :: node.history ∧ ∀ mark ∈ told, mark.Silent
      | .error halt => halt.isRefusal = false ∧ Tells node.history after.history [] := by
  refine ends_ask_told.bind (fun reply after course => ?_) fun halt after course => ?_
  · rcases course with ⟨⟨fault, same⟩, told⟩ | ⟨same, told, history, silent⟩
    · have answered : reply = fault.answer (.remove key) := Except.ok.inj same
      cases reply with
      | ok answer =>
          obtain ⟨_, _, other, -⟩ := Fault.answer_eq_ok answered.symm
          cases other
      | error cause =>
          have failed : Silent node after := ⟨[.stored (.remove key) true], told, by simp [Mark.Silent]⟩
          exact ⟨rfl, failed.tells⟩
    · have answered : reply = (node.store.answer (.remove key)).1 := Except.ok.inj same
      cases present : node.store.hasRecord key with
      | true =>
          have granted : (node.store.answer (.remove key)).1 = .ok () := by
            simp [MemoryStore.answer, MemoryStore.remove?, present]
          rw [answered, granted]
          exact ⟨rfl, told, history, silent⟩
      | false =>
          have refused : (node.store.answer (.remove key)).1 = .error (.notFound key) := by
            simp [MemoryStore.answer, MemoryStore.remove?, present]
          have absent : ∀ other, StoreCall.remove key = .remove other →
              (storeAfter node.history).hasRecord other = false := by
            rintro _ ⟨⟩
            rw [known, present]
          have tells : Tells node.history after.history [] := by
            rw [history]
            exact (Tells.entry (uneventful_stored (.inr absent))).trans (tells_of_silent silent _)
          rw [answered, refused]
          exact ⟨rfl, tells⟩
  · rcases course with ⟨⟨fault, same⟩, -⟩ | ⟨same, -⟩ <;> cases same

end Run

section Reservation

variable {engine : Engine} {resource : Resource} {key master slave : ObjectKey}

theorem silent_resourceOf : Keeps Silent (engine.resourceOf key) := by
  refine silent_composed.bind (silent_ask nofun) fun reply => ?_
  cases reply with
  | ok record =>
      dsimp only
      split
      · exact silent_composed.pure _
      · exact silent_composed.fail _
  | error cause => cases cause <;> exact silent_composed.fail _

theorem silent_resolve : Keeps Silent (engine.resolve master slave) := by
  rw [Engine.resolve]
  split
  · exact silent_composed.fail _
  · exact silent_resourceOf.mapError _

theorem silent_checkAndReserve : Keeps Silent (Engine.checkAndReserve resource master slave) := by
  refine silent_composed.bind (silent_demand nofun) fun present => ?_
  split
  · refine silent_composed.bind ?_ fun found => ?_
    · exact chained_dependsOn silent_composed.chained (fun _ => silent_demand nofun) Silent.refl
        (Keeps.throw Silent.refl _)
    split
    · exact silent_composed.fail _
    refine silent_composed.bind (silent_demand nofun) fun masters => ?_
    split
    · exact silent_composed.pure false
    split
    · exact silent_composed.bind (silent_report ⟨nofun, nofun⟩) fun _ => silent_composed.fail _
    · exact silent_composed.bind (silent_demand nofun) fun _ => silent_composed.pure true
  · exact silent_composed.fail _

theorem silent_withdraw {ε : Type} {recorded : Bool} : Keeps Silent (withdraw recorded master slave : Run ε Unit) := by
  rw [withdraw]
  split
  · refine silent_composed.bind (silent_ask nofun) fun reply => ?_
    cases reply with
    | ok => exact silent_composed.pure ()
    | error cause => exact silent_report ⟨nofun, nofun⟩
  · exact silent_composed.pure ()

end Reservation

namespace Resource

variable {node : Node} {resource : Resource} {action : String} {flags : ActionFlags} {key : ObjectKey}

theorem silent_afterFailure {error : ActionError} : Keeps Silent (afterFailure flags key error) := by
  refine silent_composed.bind (silent_report ⟨nofun, nofun⟩) fun _ => ?_
  split
  · refine silent_composed.bind (silent_demand nofun) fun present => ?_
    split
    · refine silent_composed.bind (silent_demand nofun) fun released => ?_
      split
      · exact silent_composed.bind (silent_report ⟨nofun, nofun⟩) fun _ => silent_composed.pure _
      · exact silent_composed.pure _
    · exact silent_composed.pure _
  · exact silent_composed.pure _

/-- What follows a handler that failed ends its dispatch. -/
theorem ends_afterFailure_told {span : Span} {past : List Mark} {made : List Dispatched} {error : ActionError}
    (tells : Tells past node.history made) : (afterFailure flags key error).Ends node fun result after =>
      Finishes span past made result after.history := by
  have kept : (afterFailure flags key error).Ends node fun result _ => isRefusal result = false := by
    refine ends_afterFailure.imp fun result after course => ?_
    cases result with
    | ok => rfl
    | error halt =>
        obtain ⟨⟨cause, rfl⟩, -⟩ := course
        rfl
  exact ⟨_, [], tells.then_silent (silent_afterFailure node), .other kept, rfl⟩

/-- What follows a handler that succeeded ends its dispatch. -/
theorem ends_afterSuccess_told {span : Span} {past : List Mark} {made : List Dispatched} {output : RawJson}
    (tells : Tells past node.history made) (known : storeAfter node.history = node.store) :
    (afterSuccess span.action span.object output).Ends node fun result after =>
      Finishes span past made result after.history := by
  rw [afterSuccess]
  split
  · next deleting =>
    refine (ends_demand_remove known).bind (fun _ after removed => ?_) fun halt after course => ?_
    · obtain ⟨present, told, history, silent⟩ := removed
      refine ⟨node.history, _, tells, .deleted rfl deleting (known ▸ present) silent, ?_⟩
      change .reported .objectDeleted :: after.history = _
      simp [history]
    · obtain ⟨kept, further⟩ := course
      refine ⟨after.history, [], ?_, .other kept, rfl⟩
      rw [← List.append_nil made]
      exact tells.trans further
  · exact ⟨node.history, [], tells, .other rfl, rfl⟩

/-- How the checks in front of a handler end: a refusal because of the object's masters is told last. -/
inductive Checks (action : String) (key : ObjectKey) (node : Node) : Except (Halt EngineError) Unit → Node → Prop where
  | other {result : Except (Halt EngineError) Unit} {after : Node} (kept : isRefusal result = false)
      (silent : Silent node after) : Checks action key node result after
  | refused {mid : Node} (deleting : action = deleteAction) (silent : Silent node mid) :
      Checks action key node (.error (.error (.objectInUse key))) (mid.marked (.reported .deleteRefused))

theorem Checks.of_silent {mid after : Node} {result : Except (Halt EngineError) Unit} (first : Silent node mid)
    (checks : Checks action key mid result after) : Checks action key node result after := by
  cases checks with
  | other kept silent => exact .other kept (first.trans silent)
  | refused deleting silent => exact .refused deleting (first.trans silent)

/-- Questions in front of the checks spoil nothing. -/
theorem Checks.bind_demand {call : StoreCall} {next : call.Answer → Run EngineError Unit}
    (other : ∀ key, call ≠ .remove key) (checks : ∀ answer after, (next answer).Ends after (Checks action key after)) :
    (demand call >>= next).Ends node (Checks action key node) := by
  refine (ends_demand_told other).bind (fun answer after both => ?_) fun halt after both => .other both.1 both.2
  exact (checks answer after).imp fun _ _ further => further.of_silent both.2

theorem ends_checkTarget_told :
    (resource.checkTarget action flags key).Ends node (Checks action key node) := by
  refine Checks.bind_demand nofun fun present mid => ?_
  have fails : ∀ (event : Event) (error : EngineError) (start : Node),
      event ≠ .objectDeleted ∧ event ≠ .deleteRefused → Halt.isRefusal (.error error) = false →
      (do report event; fail error : Run EngineError Unit).Ends start (Checks action key start) :=
    fun event error start quiet kept => .other kept (.marked quiet)
  split
  · exact fails _ _ mid ⟨nofun, nofun⟩ rfl
  split
  · exact fails _ _ mid ⟨nofun, nofun⟩ rfl
  extract_lets finish
  have unused : ∀ start, (finish ()).Ends start (Checks action key start) := by
    intro start
    simp only [finish]
    split
    · next deleting =>
        refine Checks.bind_demand nofun fun masters last => ?_
        split
        · exact .refused deleting (.refl last)
        · exact .other rfl (.refl last)
    · exact .other rfl (.refl start)
  split
  · refine Checks.bind_demand nofun fun record last => ?_
    split
    · exact fails _ _ last ⟨nofun, nofun⟩ rfl
    · exact unused last
  · exact unused mid

end Resource

end Provision
