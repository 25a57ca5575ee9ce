import Provision.Proofs.Dependency.Panicked
import Provision.Proofs.Engine.Nesting

/-! # Failures of the store stop an operation

The engine asks the store before a handler or scope runs, and gives orders before and after it. If one of
these calls fails, the operation ends with the failure, and nothing more is done. What has been done until
then is what the handler or scope did: of the calls in front of it only the last one is an order, and behind
it there is one order at most.
-/

namespace Provision

open Run Node

variable {ε ε' α β : Type} {node mid after : Node} {call : StoreCall} {earlier rest later marks : List Mark}

/-! ## Runs that end on a failure -/

/-- A run ends with the failure that was planned for a call of the store, after what was done earlier. -/
def FailsWith (faults : FaultPlan) (earlier : List Mark) (call : StoreCall) (told : StoreError → ε)
    (result : Except (Halt ε) α) : Prop :=
  ∃ fault cause, (faults.passed earlier).next call.operation = some fault ∧ fault.answer call = .error cause ∧
    result = .error (.error (told cause))

theorem not_failsWith_ok {faults : FaultPlan} {told : StoreError → ε} {value : α} :
    ¬FailsWith faults earlier call told (.ok value : Except (Halt ε) α) := by
  rintro ⟨_, _, _, _, same⟩
  cases same

theorem failsWith_iff_of_trail {told : StoreError → ε} {result : Except (Halt ε) α}
    (trail : node.Trail mid marks) :
    FailsWith mid.faults rest call told result ↔ FailsWith node.faults (rest ++ marks) call told result := by
  rw [FailsWith, FailsWith, trail.faults, FaultPlan.passed_append]

/-- Nothing runs inside, and if a call of the store goes wrong, the run ends with its failure. -/
def EndedOnFailure (told : StoreError → ε) (node : Node) (result : Except (Halt ε) α) (after : Node) : Prop :=
  ∃ marks, node.Trail after marks ∧ (∀ mark ∈ marks, mark.Unframed) ∧
    ∀ call earlier, Astray marks call earlier → FailsWith node.faults earlier call told result

def EndsOnFailure (told : StoreError → ε) (body : Run ε α) : Prop :=
  ∀ node, node.faults.Outages → body.Ends node (EndedOnFailure told node)

theorem endedOnFailure_still {told : StoreError → ε} {result : Except (Halt ε) α} :
    EndedOnFailure told node result node :=
  ⟨[], .refl node, List.forall_mem_nil _, fun _ _ astray => absurd astray (not_astray nofun)⟩

theorem Node.Trail.endedOnFailure {told : StoreError → ε} {result : Except (Halt ε) α}
    (trail : node.Trail mid marks) (unframed : ∀ mark ∈ marks, mark.Unframed)
    (right : ∀ call earlier, ¬Astray marks call earlier)
    (ended : EndedOnFailure told mid result after) : EndedOnFailure told node result after := by
  obtain ⟨later, trail', unframed', fails⟩ := ended
  refine ⟨later ++ marks, trail.trans trail', fun mark member => ?_, fun call earlier astray => ?_⟩
  · exact (List.mem_append.mp member).elim (unframed' mark) (unframed mark)
  · rcases astray_append.mp astray with early | ⟨rest, rfl, late⟩
    · exact absurd early (right call earlier)
    · exact (failsWith_iff_of_trail trail).mp (fails call rest late)

namespace EndsOnFailure

variable {told : StoreError → ε}

theorem pure (value : α) : EndsOnFailure told (Pure.pure value) := fun _ _ => endedOnFailure_still

theorem throw (halt : Halt ε) : EndsOnFailure told (throw halt : Run ε α) := fun _ _ => endedOnFailure_still

theorem report (event : Event) : EndsOnFailure told (report event) := by
  intro node _
  refine ⟨[.reported event], trail_spoken trivial, by simp [Mark.Unframed], fun call earlier astray => ?_⟩
  cases (astray_singleton_iff.mp astray).1

theorem bind {body : Run ε α} {next : α → Run ε β} (first : EndsOnFailure told body)
    (second : ∀ value, EndsOnFailure told (next value)) : EndsOnFailure told (body >>= next) := by
  intro node outages
  refine (first node outages).bind ?_ ?_
  · intro value mid ⟨marks, trail, unframed, fails⟩
    refine (second value mid (trail.outages outages)).imp fun result after ended => ?_
    have right := fun call earlier astray => not_failsWith_ok (fails call earlier astray)
    exact trail.endedOnFailure unframed right ended
  · intro halt mid ⟨marks, trail, unframed, fails⟩
    refine ⟨marks, trail, unframed, fun call earlier astray => ?_⟩
    obtain ⟨fault, cause, planned, answered, same⟩ := fails call earlier astray
    cases same
    exact ⟨fault, cause, planned, answered, rfl⟩

theorem mapError {body : Run ε α} (ends : EndsOnFailure told body) (f : ε → ε') :
    EndsOnFailure (fun cause => f (told cause)) (body.mapError f) := by
  intro node outages
  rw [ends_mapError]
  refine (ends node outages).imp fun result after ⟨marks, trail, unframed, fails⟩ => ?_
  refine ⟨marks, trail, unframed, fun call earlier astray => ?_⟩
  obtain ⟨fault, cause, planned, answered, rfl⟩ := fails call earlier astray
  exact ⟨fault, cause, planned, answered, rfl⟩

/-- A run that makes a call ends on its failure if it tells that of a backend. -/
theorem ask_bind {next : Except StoreError call.Answer → Run ε α}
    (fails : ∀ reason, next (.error (.backend reason)) = fail (told (.backend reason)))
    (onward : ∀ reply, EndsOnFailure told (next reply)) : EndsOnFailure told (ask call >>= next) := by
  intro node outages
  refine ends_ask_trail.bind ?_ ?_
  · intro reply mid ⟨marks, trail, unframed, course⟩
    rcases course with ⟨fault, planned, rfl, same⟩ | right
    · obtain ⟨reason, answered⟩ := outages _ _ fault planned call rfl
      cases same
      rw [answered, fails]
      refine ⟨[.stored call true], trail, unframed, fun other earlier astray => ?_⟩
      obtain ⟨same, rfl⟩ := astray_singleton_iff.mp astray
      cases same
      exact ⟨fault, .backend reason, planned, answered, rfl⟩
    · exact (onward reply mid (trail.outages outages)).imp fun _ _ ended => trail.endedOnFailure unframed right ended
  · intro halt mid ⟨marks, trail, unframed, course⟩
    rcases course with ⟨fault, planned, rfl, same⟩ | right
    · cases same
    · exact ⟨marks, trail, unframed, fun call earlier astray => absurd astray (right call earlier)⟩

theorem demand (call : StoreCall) : EndsOnFailure EngineError.store (demand call) := by
  refine ask_bind (fun _ => rfl) fun reply => ?_
  cases reply with
  | ok answer => exact pure answer
  | error cause => exact throw _

theorem demands : Demands (fun _ => True) fun body => EndsOnFailure EngineError.store body where
  pure := pure
  bind := bind
  fail _ := throw _
  report := report
  demand call _ := demand call

theorem checkAndReserve {resource : Resource} {master slave : ObjectKey} :
    EndsOnFailure EngineError.store (Engine.checkAndReserve resource master slave) := by
  refine demands.checkAndReserve ?_ trivial trivial
  exact chained_dependsOn demands.toChained (fun key => demand (.masters key)) (fun _ _ => endedOnFailure_still)
    (throw _)

theorem resourceOf {engine : Engine} {key : ObjectKey} : EndsOnFailure EngineError.store (engine.resourceOf key) := by
  refine ask_bind (fun _ => rfl) fun reply => ?_
  cases reply with
  | ok record =>
      dsimp only
      split
      · exact pure _
      · exact throw _
  | error cause => cases cause <;> exact throw _

theorem resolve {engine : Engine} {master slave : ObjectKey} :
    EndsOnFailure (fun cause => ActionError.engine (.store cause)) (engine.resolve master slave) := by
  rw [Engine.resolve]
  split
  · exact throw _
  · exact resourceOf.mapError _

end EndsOnFailure

/-! ## Failures that change nothing -/

/-- If a run ends without a value, the store is as it was. -/
def Harmless (body : Run ε α) : Prop :=
  ∀ node, body.Ends node fun result after => ∀ halt, result = .error halt → after.store = node.store

namespace Harmless

theorem of_asks {body : Run ε α} (asks : Keeps Consulted body) : Harmless body :=
  fun node => (asks node).imp fun _ _ asked _ _ => asked.store

theorem demand (call : StoreCall) : Harmless (demand call) := by
  intro node
  apply ends_demand
  · exact fun _ _ _ asked _ _ => asked.store
  · exact fun _ _ performed refused _ _ => performed.store.trans (MemoryStore.after_of_refused refused)
  · exact fun _ _ _ _ _ _ _ => nofun
  · exact fun _ _ _ _ => nofun

theorem mapError {body : Run ε α} (harmless : Harmless body) (f : ε → ε') : Harmless (body.mapError f) := by
  intro node
  rw [ends_mapError]
  refine (harmless node).imp fun result after kept halt same => ?_
  cases result with
  | ok => cases same
  | error halt => exact kept halt rfl

theorem bind {body : Run ε α} {next : α → Run ε β} (harmless : Harmless body)
    (goes : ∀ value node halt, (next value node).1 ≠ .error halt) : Harmless (body >>= next) :=
  fun node => (harmless node).bind (fun value mid _ halt same => absurd same (goes value mid halt))
    fun _ _ kept _ _ => kept _ rfl

theorem checkAndReserve {resource : Resource} {master slave : ObjectKey} :
    Harmless (Engine.checkAndReserve resource master slave) := by
  refine fun node => Engine.ends_checkAndReserve_any.imp fun _ _ course _ same => ?_
  rcases course with asked | ⟨told, -⟩
  · exact asked.store
  · rw [told] at same
    cases same

theorem afterSuccess {name : String} {key : ObjectKey} {output : RawJson} :
    Harmless (Resource.afterSuccess name key output) := by
  rw [Resource.afterSuccess]
  split
  · refine (demand (.remove key)).bind fun _ _ _ same => ?_
    cases same
  · intro _ _ same
    cases same

theorem afterFailure {flags : ActionFlags} {key : ObjectKey} {error : ActionError} :
    Harmless (Resource.afterFailure flags key error) := by
  refine fun node => Resource.ends_afterFailure.imp fun _ _ course _ same => ?_
  subst same
  exact course.2.1.store

end Harmless

/-- No call went wrong but for some. -/
def Spared (exempt : StoreCall → Prop) (node after : Node) : Prop :=
  ∃ marks, node.Trail after marks ∧ ∀ call earlier, Astray marks call earlier → exempt call

namespace Spared

variable {exempt : StoreCall → Prop} {master slave : ObjectKey}

theorem refl (node : Node) : Spared exempt node node :=
  ⟨[], .refl node, fun _ _ astray => absurd astray (not_astray nofun)⟩

theorem trans ⦃node mid after : Node⦄ (first : Spared exempt node mid) (second : Spared exempt mid after) :
    Spared exempt node after := by
  obtain ⟨marks, trail, only⟩ := first
  obtain ⟨later, trail', only'⟩ := second
  refine ⟨later ++ marks, trail.trans trail', fun call earlier astray => ?_⟩
  rcases astray_append.mp astray with early | ⟨rest, -, late⟩
  · exact only call earlier early
  · exact only' call rest late

theorem report (event : Event) : Keeps (Spared exempt) (report event : Run ε Unit) := by
  refine fun node => ⟨_, trail_spoken trivial, fun call earlier astray => ?_⟩
  cases (astray_singleton_iff.mp astray).1

theorem ask (call : StoreCall) : Keeps (Spared (· = call)) (ask call : Run ε _) := by
  refine fun node => ends_ask_trail.imp fun _ after ⟨marks, trail, _, course⟩ => ⟨marks, trail, ?_⟩
  intro other earlier astray
  rcases course with ⟨_, _, rfl, _⟩ | right
  · cases (astray_singleton_iff.mp astray).1
    rfl
  · exact absurd astray (right other earlier)

theorem withdraw {recorded : Bool} :
    Keeps (Spared (· = .unlink master slave)) (withdraw recorded master slave : Run ε Unit) := by
  cases recorded with
  | false => exact Keeps.pure refl ()
  | true =>
      refine Keeps.bind trans (ask (.unlink master slave)) fun reply => ?_
      cases reply with
      | ok => exact Keeps.pure refl ()
      | error cause => exact report _

end Spared

/-- If a call goes wrong after what ran inside, the run ends with its failure and leaves the store as it was,
    and what ran inside did not begin on a store that had been changed. Of some calls nothing is said. -/
def Follows (told : StoreError → ε) (exempt : StoreCall → Prop) (unchanged : Prop) (body : Run ε α) : Prop :=
  ∀ node, node.faults.Outages → body.Ends node fun result after => ∃ marks, node.Trail after marks ∧
    ∀ call earlier, Astray marks call earlier → ¬exempt call →
      FailsWith node.faults earlier call told result ∧ after.store = node.store ∧ unchanged

namespace Follows

variable {told : StoreError → ε} {exempt : StoreCall → Prop} {unchanged : Prop}

theorem of_endsOnFailure {body : Run ε α} (ends : EndsOnFailure told body) (harmless : Harmless body)
    (same : unchanged) :
    Follows told exempt unchanged body := by
  intro node outages
  obtain ⟨marks, trail, -, fails⟩ := ends node outages
  refine ⟨marks, trail, fun call earlier astray _ => ?_⟩
  obtain ⟨fault, cause, -, -, failed⟩ := fails call earlier astray
  exact ⟨fails call earlier astray, harmless node _ failed, same⟩

theorem of_spared {body : Run ε α} (spared : Keeps (Spared exempt) body) : Follows told exempt unchanged body := by
  intro node _
  obtain ⟨marks, trail, only⟩ := spared node
  exact ⟨marks, trail, fun call earlier astray apart => absurd (only call earlier astray) apart⟩

end Follows

/-! ## Operations that are stopped -/

/-- Some entries tell of the beginning of a handler or scope. -/
def Begun (marks : List Mark) : Prop := ∃ frame : Frame, frame.Body ∧ .began frame ∈ marks

theorem begun_append : Begun (later ++ marks) ↔ Begun later ∨ Begun marks := by
  simp only [Begun, List.mem_append, and_or_left, exists_or]

theorem begun_ended {frame : Frame} : Begun (.ended frame :: marks) ↔ Begun marks := by
  simp [Begun]

theorem begun_concat {frame : Frame} (outer : ¬frame.Body) : Begun (marks ++ [.began frame]) ↔ Begun marks := by
  rw [begun_append, or_iff_left]
  rintro ⟨other, body, member⟩
  cases List.mem_singleton.mp member
  exact outer body

theorem not_begun (unframed : ∀ mark ∈ marks, mark.Unframed) : ¬Begun marks := by
  rintro ⟨frame, -, member⟩
  exact unframed _ member

/-- What ran inside has ended by some time, and it made one store of another. -/
def Leaves (inner : Run ActionError RawJson) (origin : Node) (store : MemoryStore) (past : List Mark) : Prop :=
  ∃ frame start outcome done, frame.Body ∧ (∃ before, start.history = .began frame :: before) ∧
    origin.history <:+ start.history ∧ start.store = origin.store ∧ inner start = (outcome, done) ∧
    done.history <:+ past ∧ done.store = store

/-- If a call of the store that is made by an operation itself, and not by what runs inside, goes wrong, the
    operation ends with the failure of the call. If nothing has begun to run inside by then, it never does, and
    the store is as it was at the beginning; otherwise it is left as it was left inside. Of some calls nothing
    is said. -/
def Stops (told : StoreError → ε) (exempt : StoreCall → Prop) (inner : Run ActionError RawJson) (origin : Node)
    (node : Node) (result : Except (Halt ε) α) (after : Node) : Prop :=
  ∃ marks, node.Trail after marks ∧ ∀ call earlier, Astray marks call earlier →
    running (earlier ++ node.history) = running node.history → ¬exempt call →
    FailsWith node.faults earlier call told result ∧
    (¬Begun earlier → ¬Begun marks ∧ after.store = origin.store) ∧
    (Begun earlier → Leaves inner origin after.store (earlier ++ node.history))

namespace Stops

variable {told : StoreError → ε} {exempt : StoreCall → Prop} {inner : Run ActionError RawJson} {origin : Node}
  {result : Except (Halt ε) α}

theorem still : Stops told exempt inner origin node result node :=
  ⟨[], .refl node, fun _ _ astray => absurd astray (not_astray nofun)⟩

theorem within {frame : Frame} {body : Run ε α} (outer : ¬frame.Body)
    (ends : body.Ends (node.marked (.began frame)) (Stops told exempt inner origin (node.marked (.began frame)))) :
    (within frame body).Ends node (Stops told exempt inner origin node) := by
  rw [ends_within]
  refine ends.imp fun result after ⟨marks, trail, stops⟩ => ?_
  have began : node.Trail (node.marked (.began frame)) [.began frame] := trail_marked nofun
  refine ⟨_, trail.framed, fun call earlier astray own apart => ?_⟩
  obtain ⟨rest, rfl, wrong⟩ := astray_framed.mp astray
  rw [List.append_assoc] at own ⊢
  obtain ⟨fails, before, behind⟩ := stops call rest wrong (own.trans (running_outer outer).1.symm) apart
  rw [begun_ended, begun_concat outer, begun_concat outer]
  exact ⟨(failsWith_iff_of_trail began).mp fails, before, behind⟩

theorem guarded {scope : GuardScope} {key : ObjectKey} {mode : LockMode} {body : Run ε α}
    (gives : Keeps (GivesBackIn scope) body) (sound : (node.table scope).Sound)
    (runs : ∀ held, body.Ends (node.withTable scope held)
      (Stops told exempt inner origin (node.withTable scope held))) :
    (guarded scope key mode body).Ends node (Stops told exempt inner origin node) := by
  refine ends_guarded_of_gives gives sound still fun held => ?_
  refine (runs held).imp fun result after ⟨marks, trail, stops⟩ left _ _ => ⟨marks, ?_, ?_⟩
  · simpa using (trail_withTable.trans trail).trans trail_withTable
  · simpa using stops

/-- What stands in front ends the run on a failure, and changes nothing then. So it is what follows that counts. -/
theorem bind {body : Run ε α} {next : α → Run ε β} (ends : EndsOnFailure told body) (harmless : Harmless body)
    (outages : node.faults.Outages) (same : node.store = origin.store)
    (onward : ∀ value mid, body node = (.ok value, mid) → node.history <:+ mid.history → mid.faults.Outages →
      (next value).Ends mid (Stops told exempt inner origin mid)) :
    (body >>= next).Ends node (Stops told exempt inner origin node) := by
  cases ran : body node with
  | mk result mid =>
      obtain ⟨marks, trail, unframed, fails⟩ := (ends node outages).of_eq ran
      have unbegun := not_begun unframed
      cases result with
      | ok value =>
          have goes : (next value).Ends mid (Stops told exempt inner origin node) := by
            have ends := onward value mid ran trail.suffix (trail.outages outages)
            refine ends.imp fun result after ⟨later, trail', stops⟩ => ?_
            refine ⟨later ++ marks, trail.trans trail', fun call earlier astray own apart => ?_⟩
            rcases astray_append.mp astray with early | ⟨rest, rfl, late⟩
            · exact absurd (fails call earlier early) not_failsWith_ok
            · have settled : running mid.history = running node.history := by
                rw [trail.history]
                exact (Balanced.of_unframed unframed).same _
              rw [List.append_assoc, ← trail.history] at own ⊢
              obtain ⟨failed, before, behind⟩ := stops call rest late (own.trans settled.symm) apart
              simp only [begun_append, unbegun, or_false]
              exact ⟨(failsWith_iff_of_trail trail).mp failed, before, behind⟩
          rw [Ends, bind_of_ok ran]
          exact goes
      | error halt =>
          have unchanged := ((harmless node).of_eq ran halt rfl).trans same
          rw [Ends, bind_of_error ran]
          refine ⟨marks, trail, fun call earlier astray _ _ => ?_⟩
          obtain ⟨fault, cause, planned, answered, failed⟩ := fails call earlier astray
          cases failed
          have early : ¬Begun earlier := not_begun fun mark member =>
            unframed mark (astray.subset (List.mem_cons_of_mem _ member))
          exact ⟨⟨fault, cause, planned, answered, rfl⟩, fun _ => ⟨unbegun, unchanged⟩,
            fun begun => absurd begun early⟩

/-- What goes wrong inside is not the operation's own. So it is what follows that counts. -/
theorem around {γ : Type} {frame : Frame} {body : Run ε γ} {next : γ → Run ε β} (framed : frame.Body)
    (nested : Keeps Nested inner) (part : origin.history <:+ node.history)
    (runs : body.Ends node fun _ mid => ∃ outcome done,
      inner (node.marked (.began frame)) = (outcome, done) ∧ mid = done.marked (.ended frame))
    (follows : ∀ value, Follows told exempt (node.store = origin.store) (next value))
    (outages : node.faults.Outages) : (body >>= next).Ends node (Stops told exempt inner origin node) := by
  -- What goes wrong until the frame ends does so while something runs that did not run before.
  have inside : ∀ {marks : List Mark}, Balanced marks → ∀ {call earlier},
      Astray (.ended frame :: (marks ++ [.began frame])) call earlier →
      running (earlier ++ node.history) ≠ running node.history := by
    intro marks balanced call earlier astray
    obtain ⟨rest, rfl, wrong⟩ := astray_framed.mp astray
    rw [List.append_assoc]
    exact balanced.running_ne framed ((List.suffix_cons _ _).trans wrong)
  refine runs.bind ?_ ?_
  · rintro value mid ⟨outcome, done, ran, rfl⟩
    obtain ⟨marks, trail, balanced⟩ := nested.of_eq ran
    have whole := trail.framed
    refine (follows value _ (whole.outages outages)).imp fun result after ⟨later, trail', stops⟩ => ?_
    refine ⟨_, whole.trans trail', fun call earlier astray own apart => ?_⟩
    rcases astray_append.mp astray with early | ⟨rest, rfl, late⟩
    · exact absurd own (inside balanced early)
    · have begun : Begun (.ended frame :: (marks ++ [.began frame])) := ⟨frame, framed, by simp⟩
      obtain ⟨failed, left, same⟩ := stops call rest late apart
      refine ⟨(failsWith_iff_of_trail whole).mp failed, fun none => ?_, fun _ => ?_⟩
      · exact absurd (begun_append.mpr (.inr begun)) none
      · refine ⟨frame, node.marked (.began frame), outcome, done, framed, ⟨_, rfl⟩, ?_, same, ran, ?_, left.symm⟩
        · exact part.trans (List.suffix_cons _ _)
        · rw [List.append_assoc, ← whole.history]
          exact (List.suffix_cons _ _).trans (List.suffix_append _ _)
  · rintro halt mid ⟨outcome, done, ran, rfl⟩
    obtain ⟨marks, trail, balanced⟩ := nested.of_eq ran
    exact ⟨_, trail.framed, fun call earlier astray own _ => absurd own (inside balanced astray)⟩

end Stops

/-! ## The operations of the engine -/

/-- What runs inside a dispatch. -/
def Resource.handling (resource : Resource) (run : Program → Run ActionError RawJson) (key : ObjectKey)
    (request : Request) : Run ActionError RawJson :=
  match resource.action? request.action with
  | some action => run (action.handler key request.payload)
  | none => fail (.engine (.actionNotFound request.action))

section Operations

variable {engine : Engine} (built : engine.Built) {depth : Nat} {origin : Node}

include built

theorem stops_holdDispatch {resource : Resource} {key : ObjectKey} {request : Request} {action : Action}
    (outages : node.faults.Outages) (same : node.store = origin.store) (part : origin.history <:+ node.history) :
    (resource.holdDispatch (engine.run depth) key request action).Ends node
      (Stops EngineError.store (fun _ => False) (engine.run depth (action.handler key request.payload)) origin
        node) := by
  have asks : Keeps Consulted (resource.checkTarget request.action action.flags key) :=
    fun _ => Resource.ends_checkTarget.imp fun _ _ both => both.1
  refine Stops.bind (EndsOnFailure.demands.checkTarget trivial) (.of_asks asks) outages same ?_
  intro _ mid checked later still
  have asked := asks.of_eq checked
  have framed : (resource.handlerFrame key request action).Body := trivial
  refine Stops.around framed (Nested.run built depth _) (part.trans later)
    (ends_attempt_within.imp fun _ _ ⟨outcome, done, ran, _, ended⟩ => ⟨outcome, done, ran, ended⟩) ?_ still
  intro outcome
  have unchanged := asked.store.trans same
  cases outcome with
  | ok output => exact .of_endsOnFailure (EndsOnFailure.demands.afterSuccess trivial) .afterSuccess unchanged
  | error error => exact .of_endsOnFailure (EndsOnFailure.demands.afterFailure trivial) .afterFailure unchanged

theorem stops_dispatch {resource : Resource} {key : ObjectKey} {request : Request} (outages : node.faults.Outages)
    (sound : (node.table resource.guards).Sound) : (resource.dispatch (engine.run depth) key request).Ends node
      (Stops EngineError.store (fun _ => False) (resource.handling (engine.run depth) key request) node node) := by
  rw [Resource.dispatch_eq, Resource.handling]
  cases resource.action? request.action with
  | none => exact Stops.still
  | some action =>
      refine Stops.within id (Stops.guarded (GivesBackIn.run built _) (by rwa [table_marked]) fun held => ?_)
      refine stops_holdDispatch built ?_ ?_ ?_
      · rw [faults_withTable]
        exact outages
      · exact store_withTable
      · rw [history_withTable]
        exact List.suffix_cons _ _

variable {master slave : ObjectKey} {program : Program}

theorem stops_holdReservation {resource : Resource} (outages : node.faults.Outages)
    (same : node.store = origin.store) (part : origin.history <:+ node.history) :
    (Engine.holdReservation resource master slave (engine.run depth program)).Ends node
      (Stops (fun cause => .engine (.store cause)) (· = .unlink master slave) (engine.run depth program) origin
        node) := by
  have harmless : Harmless ((Engine.checkAndReserve resource master slave).mapError ActionError.engine) :=
    Harmless.checkAndReserve.mapError _
  refine Stops.bind (EndsOnFailure.checkAndReserve.mapError _) harmless outages same fun _ mid _ later still => ?_
  have framed : Frame.Body (.scope .add slave) := trivial
  refine Stops.around framed (Nested.run built depth program) (part.trans later)
    (ends_attempt_within.imp fun _ _ ⟨outcome, done, ran, _, ended⟩ => ⟨outcome, done, ran, ended⟩) ?_ still
  intro outcome
  refine .of_spared ?_
  cases outcome with
  | ok output => exact Keeps.bind Spared.trans (Spared.report _) fun _ => Keeps.pure Spared.refl output
  | error error => exact Keeps.bind Spared.trans Spared.withdraw fun _ => Keeps.throw Spared.refl _

theorem stops_addDependency (outages : node.faults.Outages) (sound : node.guards.Sound) :
    (engine.addDependency master slave (engine.run depth program)).Ends node
      (Stops (fun cause => .engine (.store cause)) (· = .unlink master slave) (engine.run depth program) node
        node) := by
  have asks : Keeps Consulted (engine.resolve master slave) :=
    fun _ => Engine.ends_resolve.imp fun _ _ both => both.1
  refine Stops.bind EndsOnFailure.resolve (.of_asks asks) outages rfl fun resource mid resolved later still => ?_
  have asked := asks.of_eq resolved
  have gives : Keeps GivesBack (Engine.holdReservation resource master slave (engine.run depth program)) :=
    GivesBack.framing.holdReservation GivesBack.performed GivesBack.performed trivial
      (GivesBack.run built depth program)
  refine Stops.within id (Stops.guarded gives ?_ fun held => ?_)
  · rw [← asked.guards] at sound
    exact sound
  · exact stops_holdReservation built still asked.store (later.trans (List.suffix_cons _ _))

theorem stops_removeDependency (outages : node.faults.Outages) (sound : node.guards.Sound) :
    (engine.removeDependency master slave (engine.run depth program)).Ends node
      (Stops (fun cause => .engine (.store cause)) (fun _ => False) (engine.run depth program) node node) := by
  have asks : Keeps Consulted (engine.resourceOf slave) := fun _ => ends_resourceOf.imp fun _ _ both => both.1
  rw [Engine.removeDependency_eq]
  refine Stops.bind (EndsOnFailure.resourceOf.mapError _) ((Harmless.of_asks asks).mapError _) outages rfl ?_
  intro resource mid found later still
  have asked : Consulted node mid := (Keeps.mapError asks _).of_eq found
  have gives : Keeps GivesBack (Engine.holdRelease master slave (engine.run depth program)) :=
    GivesBack.framing.holdRelease GivesBack.performed trivial (GivesBack.run built depth program)
  refine Stops.within id (Stops.guarded gives ?_ fun held => ?_)
  · rw [← asked.guards] at sound
    exact sound
  · have framed : Frame.Body (.scope .remove slave) := trivial
    refine Stops.around framed (Nested.run built depth program) (later.trans (List.suffix_cons _ _))
      (ends_within.mpr ⟨_, _, rfl, rfl⟩) ?_ still
    intro output
    have unlinks : EndsOnFailure (fun cause => ActionError.engine (.store cause))
        ((demand (.unlink master slave)).mapError ActionError.engine) := (EndsOnFailure.demand _).mapError _
    refine .of_endsOnFailure (unlinks.bind fun _ => ?_) ?_ asked.store
    · exact (EndsOnFailure.report _).bind fun _ => EndsOnFailure.pure output
    · exact ((Harmless.demand (.unlink master slave)).mapError _).bind fun _ _ _ => nofun

end Operations

/-! ## The locks of the engine -/

namespace GivesBackIn

variable {scope scope' : GuardScope} {body : Run ε α}

theorem within {frame : Frame} (keeps : Keeps (GivesBackIn scope) body) :
    Keeps (GivesBackIn scope) (within frame body) := by
  intro node
  rw [ends_within]
  simpa only [GivesBackIn, table_marked] using keeps (node.marked (.began frame))

/-- The table in which a lock is taken may be another one. -/
theorem guarded {key : ObjectKey} {mode : LockMode} (keeps : Keeps (GivesBackIn scope) body) :
    Keeps (GivesBackIn scope) (guarded scope' key mode body) := by
  intro node
  by_cases sound : (node.table scope).Sound
  · by_cases same : scope' = scope
    · subst same
      refine ends_guarded_of_gives keeps sound (fun known => ⟨known, .refl _⟩) fun held => ?_
      refine (Ends.of_true _ _).imp fun _ after _ left agrees kept _ => ?_
      rw [table_withTable]
      exact ⟨kept, agrees⟩
    · rw [ends_guarded]
      split
      · exact fun known => ⟨known, .refl _⟩
      · refine (keeps _).imp fun _ after gives => ?_
        rw [GivesBackIn, table_withTable_of_ne same] at gives
        split
        · rw [GivesBackIn, table_withTable_of_ne same]
          exact gives
        · exact gives
  · exact fun known => absurd known sound

theorem dispatch {engine : Engine} (built : engine.Built) {depth : Nat} {resource : Resource} {key : ObjectKey}
    {request : Request} : Keeps (GivesBackIn scope) (resource.dispatch (engine.run depth) key request) := by
  rw [Resource.dispatch_eq]
  split
  · exact fun _ known => ⟨known, .refl _⟩
  · exact within (guarded (GivesBackIn.run built scope))

theorem addDependency {engine : Engine} (built : engine.Built) {depth : Nat} {master slave : ObjectKey}
    {program : Program} : Keeps (GivesBackIn scope) (engine.addDependency master slave (engine.run depth program)) :=
  of_both ((GivesBack.running fun _ => True).addDependency trivial trivial (GivesBack.run built depth program))
    ((SameOwn.running fun _ => True).addDependency trivial trivial (SameOwn.run built depth program)) scope

theorem removeDependency {engine : Engine} (built : engine.Built) {depth : Nat} {master slave : ObjectKey}
    {program : Program} :
    Keeps (GivesBackIn scope) (engine.removeDependency master slave (engine.run depth program)) :=
  of_both ((GivesBack.running fun _ => True).removeDependency trivial trivial (GivesBack.run built depth program))
    ((SameOwn.running fun _ => True).removeDependency trivial trivial (SameOwn.run built depth program)) scope

end GivesBackIn

/-- Failures of the store stop an operation. If a call of the store that a dispatch or an operation on
    dependencies makes itself fails, but for the withdrawal of an edge, then the operation ends with that
    failure. If the call was made before the handler or scope ran, that never runs, and the store is as it was;
    otherwise the store is as the handler or scope left it. In any case guards and locks are as they were. -/
theorem store_failure_stops_cleanly {engine : Engine} (built : engine.Built) (depth : Nat) {node : Node}
    (sound : ∀ scope, (node.table scope).Sound) (outages : node.faults.Outages) :
    (∀ (resource : Resource) key request,
      (resource.dispatch (engine.run depth) key request).Ends node fun result after =>
        Stops EngineError.store (fun _ => False) (resource.handling (engine.run depth) key request) node node result
          after ∧ ∀ scope, (node.table scope).Agrees (after.table scope)) ∧
    (∀ master slave program, (engine.addDependency master slave (engine.run depth program)).Ends node
      fun result after =>
        Stops (fun cause => .engine (.store cause)) (· = .unlink master slave) (engine.run depth program) node node
          result after ∧ ∀ scope, (node.table scope).Agrees (after.table scope)) ∧
    ∀ master slave program, (engine.removeDependency master slave (engine.run depth program)).Ends node
      fun result after =>
        Stops (fun cause => .engine (.store cause)) (fun _ => False) (engine.run depth program) node node result
          after ∧ ∀ scope, (node.table scope).Agrees (after.table scope) := by
  refine ⟨fun resource key request => ⟨stops_dispatch built outages (sound _), fun scope => ?_⟩,
    fun master slave program => ⟨stops_addDependency built outages (sound .shared), fun scope => ?_⟩,
    fun master slave program => ⟨stops_removeDependency built outages (sound .shared), fun scope => ?_⟩⟩
  · exact (GivesBackIn.dispatch built node (sound scope)).2
  · exact (GivesBackIn.addDependency built node (sound scope)).2
  · exact (GivesBackIn.removeDependency built node (sound scope)).2

namespace Small

/-- A disk that relies on another one is there, no record can be removed, and no edge be recorded. -/
def full : Node where
  store := ((MemoryStore.empty.write (object "a") ⟨"disk", []⟩).write (object "b") ⟨"disk", []⟩).link (object "a")
    (object "b")
  faults := (FaultPlan.none.plan .remove (.failing "disk full") 0 none).plan .link (.failing "disk full") 0 none

theorem full_sound (scope : GuardScope) : (full.table scope).Sound := by
  cases scope <;> exact GuardTable.sound_empty

theorem full_outages : full.faults.Outages := by
  have removals : (FaultPlan.none.plan .remove (.failing "disk full") 0 none).Outages := FaultPlan.outages_none.plan
  have both : ((FaultPlan.none.plan .remove (.failing "disk full") 0 none).plan .link (.failing "disk full") 0
    none).Outages := removals.plan
  exact both

def removing : Request := { action := Resource.deleteAction, object := "a" }

/-- The deletion of the disk. -/
def removal : Except (Halt EngineError) Response × Node :=
  (resource "disk" .exclusive).dispatch (engine.run 9) (object "a") removing full

/-- A reservation of the disk. -/
def reservation : Except (Halt ActionError) RawJson × Node :=
  engine.addDependency (object "vm") (object "a") (engine.run 9 creating) full

/-- What was done until the record was to be removed. -/
def untilRemoval : List Mark :=
  let span : Span := ⟨"disk", Resource.deleteAction, object "a"⟩
  [.ended (.handler span .exclusive), .began (.handler span .exclusive), .stored (.masters (object "a")) false,
    .stored (.get (object "a")) false, .stored (.has (object "a")) false, .began (.dispatch span .exclusive)]

/-- What was done until the edge was to be recorded. -/
def untilEdge : List Mark :=
  [.stored (.masters (object "a")) false, .stored (.masters (object "vm")) false, .stored (.has (object "a")) false,
    .began (.dependency .add (object "a")), .stored (.get (object "a")) false]

theorem removal_astray : Astray removal.2.history (.remove (object "a")) untilRemoval := ⟨[_], rfl⟩

theorem reservation_astray : Astray reservation.2.history (.link (object "vm") (object "a")) untilEdge :=
  ⟨[_], rfl⟩

theorem untilRemoval_begun : Begun untilRemoval := by
  refine ⟨.handler ⟨"disk", Resource.deleteAction, object "a"⟩ .exclusive, trivial, ?_⟩
  simp [untilRemoval]

theorem untilEdge_not_begun : ¬Begun untilEdge := by
  rintro ⟨frame, body, member⟩
  simp only [untilEdge, List.mem_cons, reduceCtorEq, Mark.began.injEq, List.not_mem_nil, or_false, false_or] at member
  subst member
  exact body

end Small

/-- The record that cannot be removed stays, with the edge of its object, though the handler ran. Where an edge
    cannot be recorded, the scope does not run. -/
theorem store_failure_stops_cleanly_full :
    (Small.engine.Built ∧ (∀ scope, (Small.full.table scope).Sound) ∧ Small.full.faults.Outages) ∧
    (Small.removal.1 = .error (.error (.store (.backend "disk full"))) ∧
      Small.removal.2.store = Small.full.store ∧ Small.full.store.hasRecord (Small.object "a") = true ∧
      Small.full.store.Relies (Small.object "a") (Small.object "b")) ∧
    Small.reservation.1 = .error (.error (.engine (.store (.backend "disk full")))) ∧
      ¬Begun Small.reservation.2.history ∧ Small.reservation.2.store = Small.full.store := by
  obtain ⟨dispatches, reserves, -⟩ :=
    store_failure_stops_cleanly Small.engine_built 9 Small.full_sound Small.full_outages
  refine ⟨⟨Small.engine_built, Small.full_sound, Small.full_outages⟩, ?_, ?_⟩
  · obtain ⟨⟨marks, trail, stops⟩, -⟩ :=
      dispatches (Small.resource "disk" .exclusive) (Small.object "a") Small.removing
    have whole : marks = Small.removal.2.history := trail.eq_history rfl
    have astray := whole ▸ Small.removal_astray
    obtain ⟨⟨fault, cause, planned, answered, failed⟩, -, left⟩ := stops _ _ astray rfl not_false
    obtain ⟨_, start, outcome, done, -, -, -, same, ran, -, unchanged⟩ := left Small.untilRemoval_begun
    have idle : done = start := congrArg Prod.snd ran.symm
    refine ⟨failed.trans ?_, ?_, by decide +kernel, by decide +kernel⟩
    · obtain rfl : Fault.failing "disk full" = fault := Option.some.inj planned
      cases answered
      rfl
    · rw [← same, ← idle]
      exact unchanged.symm
  · obtain ⟨⟨marks, trail, stops⟩, -⟩ := reserves (Small.object "vm") (Small.object "a") Small.creating
    have whole : marks = Small.reservation.2.history := trail.eq_history rfl
    have astray := whole ▸ Small.reservation_astray
    obtain ⟨⟨fault, cause, planned, answered, failed⟩, before, -⟩ := stops _ _ astray rfl nofun
    obtain ⟨never, unchanged⟩ := before Small.untilEdge_not_begun
    refine ⟨failed.trans ?_, whole ▸ never, unchanged⟩
    obtain rfl : Fault.failing "disk full" = fault := Option.some.inj planned
    cases answered
    rfl

end Provision
