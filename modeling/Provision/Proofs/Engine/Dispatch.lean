import Provision.Engine.Dispatch
import Provision.Proofs.Engine.Reservation

/-! # What the parts of a dispatch do

The checks in front of a handler change nothing, and a handler runs only if they were passed. What
follows a handler is at most one order to the store.
-/

namespace Provision

/-- Whatever creates an object runs alone on it. -/
theorem ActionFlags.mode_of_requiresNew {flags : ActionFlags} (new : flags.requiresNew = true) :
    flags.mode = .exclusive := by
  have both : flags.bits &&& mustNotExist.bits = mustNotExist.bits := by
    simpa [requiresNew, contains] using new
  have write : flags.bits &&& create.bits ≠ 0 := by
    intro none'
    have less : flags.bits &&& (create.bits &&& mustNotExist.bits) = 0 := by
      rw [← UInt8.and_assoc, none', UInt8.zero_and]
    have same : create.bits &&& mustNotExist.bits = mustNotExist.bits := by decide
    rw [same, both] at less
    exact absurd less (by decide)
  simp [mode, requiresWrite, write]

namespace Resource

open Run Node

variable {node : Node} {resource : Resource} {action : String} {flags : ActionFlags}
  {key : ObjectKey}

/-- A store in which the checks in front of a handler are passed. -/
structure Admits (resource : Resource) (action : String) (flags : ActionFlags) (key : ObjectKey)
    (store : MemoryStore) : Prop where
  /-- Just the creating actions are on objects that do not exist. -/
  new : store.hasRecord key = !flags.requiresNew
  kind : ∀ record, store.record? key = some record → record.kind = resource.name

/-- A store in which a request gets to its handler: nothing relies on an object that is to be
    removed. -/
structure Accepts (resource : Resource) (action : String) (flags : ActionFlags) (key : ObjectKey)
    (store : MemoryStore) : Prop extends Admits resource action flags key store where
  unused : action = deleteAction → store.mastersOf key = []

/-- What a request is refused with that does not get to its handler. -/
inductive Refuses (resource : Resource) (action : String) (flags : ActionFlags) (key : ObjectKey)
    (store : MemoryStore) : EngineError → Prop where
  | taken (creates : flags.requiresNew = true) (present : store.hasRecord key = true) :
      Refuses resource action flags key store (.objectExists key)
  | missing (acts : flags.requiresNew = false) (absent : store.hasRecord key = false) :
      Refuses resource action flags key store (.objectDoesNotExist key)
  | foreign {record : Record} (acts : flags.requiresNew = false)
      (found : store.record? key = some record) (other : record.kind ≠ resource.name) :
      Refuses resource action flags key store
        (.objectInvalidType key resource.name record.kind)
  | used (admits : resource.Admits action flags key store) (deleting : action = deleteAction)
      (relied : store.mastersOf key ≠ []) :
      Refuses resource action flags key store (.objectInUse key)

theorem Refuses.not_accepts {store : MemoryStore} {error : EngineError}
    (refuses : resource.Refuses action flags key store error) :
    ¬resource.Accepts action flags key store := by
  intro accepts
  cases refuses with
  | taken creates present => simp [accepts.new, creates] at present
  | missing acts absent => simp [accepts.new, acts] at absent
  | foreign acts found other => exact other (accepts.kind _ found)
  | used admits deleting relied => exact relied (accepts.unused deleting)

/-- A handler runs only after questions, and only on an object that is as it should be. Nothing relies
    on an object that is to be removed, whatever else the store may get wrong. If no call goes wrong,
    nothing but what the object is like keeps a handler from running. -/
theorem ends_checkTarget :
    (resource.checkTarget action flags key).Ends node fun result after => Consulted node after ∧
      match result with
      | .ok () => (action = deleteAction → node.store.mastersOf key = []) ∧
          (node.faults.Honest → resource.Admits action flags key node.store)
      | .error halt => ∃ error, halt = .error error ∧
          (node.faults.Calm → resource.Refuses action flags key node.store error) := by
  refine (learns_has key).learn
    (fun cause after wrong consulted => ⟨consulted, _, rfl, fun calm => absurd calm wrong⟩) ?_
  intro present mid consulted truth
  split
  next refused =>
    rw [Bool.and_eq_true] at refused
    exact ⟨consulted.trans (.marked trivial), _, rfl, fun calm =>
      .taken refused.2 ((truth calm.honest).symm.trans refused.1)⟩
  next notNew =>
    split
    next refused =>
      rw [Bool.and_eq_true, Bool.not_eq_true', Bool.not_eq_true'] at refused
      exact ⟨consulted.trans (.marked trivial), _, rfl, fun calm =>
        .missing refused.2 ((truth calm.honest).symm.trans refused.1)⟩
    next notOld =>
      have new : node.faults.Honest → node.store.hasRecord key = !flags.requiresNew := by
        intro honest
        rw [← truth honest]
        cases present <;> cases created : flags.requiresNew <;> simp_all
      extract_lets finish
      have finishes : ∀ {mid : Node}, Consulted node mid →
          (node.faults.Honest → resource.Admits action flags key node.store) →
          (finish ()).Ends mid fun result after => Consulted node after ∧
            match result with
            | .ok () => (action = deleteAction → node.store.mastersOf key = []) ∧
                (node.faults.Honest → resource.Admits action flags key node.store)
            | .error halt => ∃ error, halt = .error error ∧
                (node.faults.Calm → resource.Refuses action flags key node.store error) := by
        intro mid consulted admits
        simp only [finish]
        split
        next deleting =>
          refine (learns_masters key).learn ?_ ?_
          · intro cause after wrong further
            exact ⟨consulted.trans further, _, rfl, fun calm =>
              absurd (consulted.calm_iff.mpr calm) wrong⟩
          · intro masters after further same
            subst same
            split
            next used =>
              refine ⟨(consulted.trans further).trans (.marked trivial), _, rfl, fun calm => ?_⟩
              refine .used (admits calm.honest) deleting fun unlisted => ?_
              rw [consulted.store, unlisted] at used
              cases used
            next unused =>
              have unlisted : node.store.mastersOf key = [] := by
                rw [← consulted.store]
                simpa using unused
              exact ⟨consulted.trans further, fun _ => unlisted, admits⟩
        next other => exact ⟨consulted, fun same => absurd same other, admits⟩
      split
      next found =>
        apply ends_demand_get.bind
        · intro record after ⟨further, stored⟩
          rw [consulted.store] at stored
          split
          next foreign =>
            refine ⟨(consulted.trans further).trans (.marked trivial), _, rfl, fun _ => ?_⟩
            refine .foreign ?_ stored foreign
            cases creates : flags.requiresNew <;> simp_all
          next own =>
            refine finishes (consulted.trans further) fun honest => ⟨new honest, ?_⟩
            intro other same
            rw [stored] at same
            cases same
            exact not_not.mp own
        · intro halt after both
          obtain ⟨further, ⟨cause, rfl⟩, why⟩ := both
          refine ⟨consulted.trans further, _, rfl, fun calm => ?_⟩
          have missing := why (consulted.calm_iff.mpr calm)
          rw [consulted.store] at missing
          rw [truth calm.honest, MemoryStore.hasRecord_eq, missing] at found
          cases found
      next missing =>
        refine finishes consulted fun honest => ⟨new honest, ?_⟩
        intro record stored
        have found := MemoryStore.hasRecord_iff.mpr ⟨record, stored⟩
        exact absurd ((truth honest).trans found) missing

/-- What follows a handler that failed is at most the release of what a failed create reserved. It is
    left out where the object has a record now. -/
theorem ends_afterFailure {error : ActionError} :
    (afterFailure flags key error).Ends node fun result after =>
      match result with
      | .ok response => response = { error := error.message } ∧
          (Consulted node after ∧ (flags.requiresNew = true → node.faults.Honest →
              node.store.hasRecord key = true) ∨
            flags.requiresNew = true ∧ Performed (.release key) node after ∧
              (node.faults.Honest → node.store.hasRecord key = false))
      | .error halt => (∃ cause, halt = .error (.store cause)) ∧ Consulted node after ∧
          ¬node.faults.Calm := by
  rw [afterFailure, ends_report_bind]
  have reported : Consulted node (node.marked (.reported (.actionFailed error))) := .marked trivial
  generalize node.marked (.reported (.actionFailed error)) = start at reported
  split
  next created =>
    refine (learns_has key).learn ?_ ?_
    · exact fun cause after wrong further => ⟨⟨cause, rfl⟩, reported.trans further,
        fun calm => wrong (reported.calm_iff.mpr calm)⟩
    · intro present mid further truth
      have told := reported.trans further
      have known : node.faults.Honest → present = node.store.hasRecord key := by
        intro honest
        rw [← reported.store]
        exact truth (reported.honest_iff.mpr honest)
      cases present with
      | true => exact ⟨rfl, .inl ⟨told, fun _ honest => (known honest).symm⟩⟩
      | false =>
          have released : (demand (.release key)).Ends mid fun result after =>
              match result with
              | .ok _ => Performed (.release key) mid after
              | .error halt => (∃ cause, halt = .error (.store cause)) ∧ Consulted mid after ∧
                  ¬mid.faults.Calm := by
            refine ends_demand_order ⟨_, rfl⟩ (fun _ same => nomatch same) ?_ ?_
            · exact fun cause after wrong asked => ⟨⟨cause, rfl⟩, asked, wrong⟩
            · exact fun answer after performed _ => performed
          apply released.bind
          · intro slaves after performed
            have given := told.performed performed
            have missing := fun honest => (known honest).symm
            split
            next some' =>
              exact ⟨rfl, .inr ⟨created, given.consulted (.marked trivial), missing⟩⟩
            next none' => exact ⟨rfl, .inr ⟨created, given, missing⟩⟩
          · intro halt after both
            obtain ⟨cause, asked, wrong⟩ := both
            exact ⟨cause, told.trans asked, fun calm => wrong (told.calm_iff.mpr calm)⟩
  next other => exact ⟨rfl, .inl ⟨reported, fun created => absurd created other⟩⟩

/-- What follows a handler that succeeded is nothing, or the removal of a deleted record. -/
theorem ends_afterSuccess {output : RawJson} :
    (afterSuccess action key output).Ends node fun result after =>
      match result with
      | .ok response => response = { payload := some output } ∧
          (action ≠ deleteAction ∧ after = node ∨
            action = deleteAction ∧ node.store.hasRecord key = true ∧
              Performed (.remove key) node after)
      | .error halt => action = deleteAction ∧ ∃ cause, halt = .error (.store cause) ∧
          (¬node.faults.Calm ∧ Consulted node after ∨
            node.store.hasRecord key = false ∧ cause = .notFound key ∧
              Performed (.remove key) node after) := by
  rw [afterSuccess]
  split
  next deleting =>
    have removed : (demand (.remove key)).Ends node fun result after =>
        match result with
        | .ok _ => node.store.hasRecord key = true ∧ Performed (.remove key) node after
        | .error halt => ∃ cause, halt = .error (.store cause) ∧
            (¬node.faults.Calm ∧ Consulted node after ∨
              node.store.hasRecord key = false ∧ cause = .notFound key ∧
                Performed (.remove key) node after) := by
      apply ends_demand
      · exact fun cause after wrong asked => ⟨cause, rfl, .inl ⟨wrong, asked⟩⟩
      · intro cause after performed refused
        refine ⟨cause, rfl, .inr ?_⟩
        cases found : node.store.hasRecord key with
        | false =>
            simp only [MemoryStore.answer, MemoryStore.remove?, found] at refused
            cases refused
            exact ⟨rfl, rfl, performed⟩
        | true => simp [MemoryStore.answer, MemoryStore.remove?, found] at refused
      · intro key' claimed answer after same
        cases same
      · intro answer after performed granted
        cases found : node.store.hasRecord key with
        | false => simp [MemoryStore.answer, MemoryStore.remove?, found] at granted
        | true => exact ⟨rfl, performed⟩
    apply removed.bind
    · exact fun _ after both =>
        ⟨rfl, .inr ⟨deleting, both.1, both.2.consulted (.marked trivial)⟩⟩
    · exact fun halt after both => ⟨deleting, both⟩
  next other => exact ⟨rfl, .inl ⟨other, rfl⟩⟩

/-! ## Under the lock of the object -/

variable {run : Program → Run ActionError RawJson} {request : Request} {described : Action}

/-- The frame of a dispatch. -/
def dispatchFrame (resource : Resource) (key : ObjectKey) (request : Request) (action : Action) :
    Frame := .dispatch ⟨resource.name, request.action, key⟩ action.flags.mode

/-- The frame of a handler. -/
def handlerFrame (resource : Resource) (key : ObjectKey) (request : Request) (action : Action) :
    Frame := .handler ⟨resource.name, request.action, key⟩ action.flags.mode

/-- What a dispatch does while it holds the lock of its object. -/
def holdDispatch (resource : Resource) (run : Program → Run ActionError RawJson) (key : ObjectKey)
    (request : Request) (action : Action) : Run EngineError Response := do
  resource.checkTarget request.action action.flags key
  match ← attempt (within (resource.handlerFrame key request action)
      (run (action.handler key request.payload))) with
  | .ok output => afterSuccess request.action key output
  | .error error => afterFailure action.flags key error

theorem dispatch_eq : resource.dispatch run key request =
    match resource.action? request.action with
    | none => fail (.actionNotFound request.action)
    | some action =>
      within (resource.dispatchFrame key request action)
        (guarded resource.guards key action.flags.mode
          (resource.holdDispatch run key request action)) := rfl

/-- What a dispatch does to a node under the lock of its object: it is refused, or the handler runs
    on an object that is as it should be, and at most one order follows. -/
inductive Dispatches (resource : Resource) (run : Program → Run ActionError RawJson)
    (key : ObjectKey) (request : Request) (action : Action) (node : Node) : Node → Prop where
  | refused {after : Node} (asked : Consulted node after) :
      Dispatches resource run key request action node after
  | handled {outcome : Except (Halt ActionError) RawJson} {mid done after : Node}
      (passed : Consulted node mid)
      (admits : node.faults.Honest → resource.Admits request.action action.flags key node.store)
      (ran : run (action.handler key request.payload)
        (mid.marked (.began (resource.handlerFrame key request action))) = (outcome, done))
      (asked : Consulted (done.marked (.ended (resource.handlerFrame key request action))) after) :
      Dispatches resource run key request action node after
  | deleted {output : RawJson} {mid done after : Node} (passed : Consulted node mid)
      (admits : node.faults.Honest → resource.Admits request.action action.flags key node.store)
      (deleting : request.action = deleteAction) (unused : node.store.mastersOf key = [])
      (ran : run (action.handler key request.payload)
        (mid.marked (.began (resource.handlerFrame key request action))) = (.ok output, done))
      (removed : Performed (.remove key)
        (done.marked (.ended (resource.handlerFrame key request action))) after) :
      Dispatches resource run key request action node after
  | gaveUp {error : ActionError} {mid done after : Node} (passed : Consulted node mid)
      (admits : node.faults.Honest → resource.Admits request.action action.flags key node.store)
      (created : action.flags.requiresNew = true)
      (ran : run (action.handler key request.payload)
        (mid.marked (.began (resource.handlerFrame key request action))) =
          (.error (.error error), done))
      (missing : done.faults.Honest → done.store.hasRecord key = false)
      (released : Performed (.release key)
        (done.marked (.ended (resource.handlerFrame key request action))) after) :
      Dispatches resource run key request action node after

theorem Dispatches.asked_or_admits {after : Node}
    (course : resource.Dispatches run key request described node after) :
    Consulted node after ∨
      (node.faults.Honest → resource.Admits request.action described.flags key node.store) := by
  cases course with
  | refused asked => exact .inl asked
  | handled _ admits | deleted _ admits | gaveUp _ admits => exact .inr admits

/-- The checks in front of a handler were passed, and the handler ran. -/
structure Handles (resource : Resource) (run : Program → Run ActionError RawJson) (key : ObjectKey)
    (request : Request) (action : Action) (node : Node)
    (outcome : Except (Halt ActionError) RawJson) (done : Node) : Prop where
  ran : ∃ mid, Consulted node mid ∧ run (action.handler key request.payload)
    (mid.marked (.began (resource.handlerFrame key request action))) = (outcome, done)
  admits : node.faults.Honest → resource.Admits request.action action.flags key node.store
  unused : request.action = deleteAction → node.store.mastersOf key = []

/-- How a dispatch ends that holds the lock of its object. -/
inductive Concludes (resource : Resource) (run : Program → Run ActionError RawJson)
    (key : ObjectKey) (request : Request) (action : Action) (node : Node) :
    Except (Halt EngineError) Response → Node → Prop where
  /-- The handler did not run. -/
  | refused {error : EngineError} {after : Node} (asked : Consulted node after)
      (why : node.faults.Calm →
        resource.Refuses request.action action.flags key node.store error) :
      Concludes resource run key request action node (.error (.error error)) after
  /-- The handler came to a halt. -/
  | halted {halt : Halt EngineError} {outcome : Except (Halt ActionError) RawJson} {done : Node}
      (handles : resource.Handles run key request action node outcome done)
      (stopped : caught outcome = .error halt) :
      Concludes resource run key request action node (.error halt)
        (done.marked (.ended (resource.handlerFrame key request action)))
  /-- The handler succeeded, and the object stays. -/
  | succeeded {output : RawJson} {done : Node}
      (handles : resource.Handles run key request action node (.ok output) done)
      (other : request.action ≠ deleteAction) :
      Concludes resource run key request action node (.ok { payload := some output })
        (done.marked (.ended (resource.handlerFrame key request action)))
  /-- The handler of a delete succeeded, and the record was removed. -/
  | deleted {output : RawJson} {done after : Node}
      (handles : resource.Handles run key request action node (.ok output) done)
      (deleting : request.action = deleteAction)
      (removed : Performed (.remove key)
        (done.marked (.ended (resource.handlerFrame key request action))) after)
      (present : done.store.hasRecord key = true) :
      Concludes resource run key request action node (.ok { payload := some output }) after
  /-- The handler of a delete succeeded, and there was no record to remove, or the store failed. -/
  | undeleted {output : RawJson} {cause : StoreError} {done after : Node}
      (handles : resource.Handles run key request action node (.ok output) done)
      (deleting : request.action = deleteAction)
      (course : ¬done.faults.Calm ∧
          Consulted (done.marked (.ended (resource.handlerFrame key request action))) after ∨
        done.store.hasRecord key = false ∧ cause = .notFound key ∧ Performed (.remove key)
          (done.marked (.ended (resource.handlerFrame key request action))) after) :
      Concludes resource run key request action node (.error (.error (.store cause))) after
  /-- The handler failed, and nothing was to be given up. -/
  | failed {error : ActionError} {done after : Node}
      (handles : resource.Handles run key request action node (.error (.error error)) done)
      (kept : action.flags.requiresNew = true → done.faults.Honest →
        done.store.hasRecord key = true)
      (asked : Consulted (done.marked (.ended (resource.handlerFrame key request action))) after) :
      Concludes resource run key request action node (.ok { error := error.message }) after
  /-- A create failed, and the object gave up what it relied on. -/
  | gaveUp {error : ActionError} {done after : Node}
      (handles : resource.Handles run key request action node (.error (.error error)) done)
      (created : action.flags.requiresNew = true)
      (missing : done.faults.Honest → done.store.hasRecord key = false)
      (released : Performed (.release key)
        (done.marked (.ended (resource.handlerFrame key request action))) after) :
      Concludes resource run key request action node (.ok { error := error.message }) after
  /-- The handler failed, and the store failed after it. -/
  | stuck {error : ActionError} {cause : StoreError} {done after : Node}
      (handles : resource.Handles run key request action node (.error (.error error)) done)
      (wrong : ¬done.faults.Calm)
      (asked : Consulted (done.marked (.ended (resource.handlerFrame key request action))) after) :
      Concludes resource run key request action node (.error (.error (.store cause))) after

theorem Concludes.dispatches {result : Except (Halt EngineError) Response} {after : Node}
    (course : Concludes resource run key request described node result after) :
    Dispatches resource run key request described node after := by
  cases course with
  | refused asked => exact .refused asked
  | halted handles =>
      obtain ⟨⟨mid, passed, ran⟩, admits, -⟩ := handles
      exact .handled passed admits ran (.refl _)
  | succeeded handles =>
      obtain ⟨⟨mid, passed, ran⟩, admits, -⟩ := handles
      exact .handled passed admits ran (.refl _)
  | deleted handles deleting removed =>
      obtain ⟨⟨mid, passed, ran⟩, admits, unused⟩ := handles
      exact .deleted passed admits deleting (unused deleting) ran removed
  | undeleted handles deleting course =>
      obtain ⟨⟨mid, passed, ran⟩, admits, unused⟩ := handles
      rcases course with ⟨-, asked⟩ | ⟨-, -, removed⟩
      · exact .handled passed admits ran asked
      · exact .deleted passed admits deleting (unused deleting) ran removed
  | failed handles _ asked =>
      obtain ⟨⟨mid, passed, ran⟩, admits, -⟩ := handles
      exact .handled passed admits ran asked
  | gaveUp handles created missing released =>
      obtain ⟨⟨mid, passed, ran⟩, admits, -⟩ := handles
      exact .gaveUp passed admits created ran missing released
  | stuck handles _ asked =>
      obtain ⟨⟨mid, passed, ran⟩, admits, -⟩ := handles
      exact .handled passed admits ran asked

theorem concludes_holdDispatch : (resource.holdDispatch run key request described).Ends node
    (Concludes resource run key request described node) := by
  refine ends_checkTarget.bind ?_ ?_
  · rintro ⟨⟩ mid ⟨passed, unused, admits⟩
    apply ends_attempt_within.bind
    · intro outcome after both
      obtain ⟨outcome', done, ran, same, rfl⟩ := both
      have ended := caught_eq_ok same.symm
      subst ended
      cases outcome with
      | ok output =>
          have handles : resource.Handles run key request described node (.ok output) done :=
            ⟨⟨mid, passed, ran⟩, admits, unused⟩
          refine ends_afterSuccess.imp fun result last both => ?_
          cases result with
          | ok response =>
              obtain ⟨rfl, ⟨other, rfl⟩ | ⟨deleting, present, removed⟩⟩ := both
              · exact .succeeded handles other
              · exact .deleted handles deleting removed present
          | error halt =>
              obtain ⟨deleting, cause, rfl, course⟩ := both
              exact .undeleted handles deleting course
      | error error =>
          have handles : resource.Handles run key request described node (.error (.error error)) done :=
            ⟨⟨mid, passed, ran⟩, admits, unused⟩
          refine ends_afterFailure.imp fun result last both => ?_
          cases result with
          | ok response =>
              obtain ⟨rfl, ⟨asked, kept⟩ | ⟨created, released, missing⟩⟩ := both
              · exact .failed handles kept asked
              · exact .gaveUp handles created missing released
          | error halt =>
              obtain ⟨⟨cause, rfl⟩, asked, wrong⟩ := both
              exact .stuck handles wrong asked
    · intro halt after both
      obtain ⟨outcome, done, ran, same, rfl⟩ := both
      exact .halted ⟨⟨mid, passed, ran⟩, admits, unused⟩ same.symm
  · intro halt mid both
    obtain ⟨asked, error, rfl, why⟩ := both
    exact .refused asked why

theorem ends_holdDispatch : (resource.holdDispatch run key request described).Ends node
    fun _ after => Dispatches resource run key request described node after :=
  concludes_holdDispatch.imp fun _ _ course => course.dispatches

end Resource

end Provision
