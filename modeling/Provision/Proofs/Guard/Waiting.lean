import Provision.Proofs.Guard.Balance
import Provision.Proofs.Run.Waits

/-! # Where a run waits

An operation asks for one lock, that of its object, and what it does under that lock waits just if the
body does that it opens. So a run waits just if it passes a point at which the lock cannot be had that the
next operation needs.
-/

namespace Provision

open Run Node

/-- Whatever only asks the store and reports never waits. -/
theorem Run.Patient.asking : Asking (fun _ => True) fun body => Patient body where
  toComposed := Patient.composed
  mapError f patient := patient.mapError f
  mark entry _ := .mark entry
  ask call _ := .ask call
  dependsOn _ := chained_dependsOn Patient.composed.chained (fun key => .demand (.masters key)) .look fun _ _ => nofun

section Operations

variable {resource : Resource} {key master slave : ObjectKey} {engine : Engine}

variable {node : Node} {other : ObjectKey}

theorem Resource.waits_holdDispatch {run : Program → Run ActionError RawJson} {request : Request}
    {action : Action} : (resource.holdDispatch run key request action).Waits node other ↔
      ∃ mid, resource.checkTarget request.action action.flags key node = (.ok (), mid) ∧
        (run (action.handler key request.payload)).Waits
          (mid.marked (.began (resource.handlerFrame key request action))) other := by
  rw [holdDispatch, (Patient.asking.demands.checkTarget trivial).waits_bind]
  rw [Unique.exists_iff]
  refine exists_congr fun mid => and_congr_right fun _ => ?_
  rw [waits_bind_patient, waits_attempt, waits_within]
  rintro (error | output)
  · exact Patient.asking.demands.afterFailure trivial
  · exact Patient.asking.demands.afterSuccess trivial

theorem Engine.waits_holdReservation {scope : Run ActionError RawJson} :
    (holdReservation resource master slave scope).Waits node other ↔
      ∃ recorded mid, checkAndReserve resource master slave node = (.ok recorded, mid) ∧
        scope.Waits (mid.marked (.began (.scope .add slave))) other := by
  rw [holdReservation, (Patient.asking.mapError _ (Patient.asking.checkAndReserve trivial trivial)).waits_bind]
  simp only [mapError_eq_ok]
  refine exists_congr fun recorded => exists_congr fun mid => and_congr_right fun _ => ?_
  rw [waits_bind_patient, waits_attempt, waits_within]
  rintro (error | output)
  · exact Patient.composed.bind (Patient.asking.withdraw trivial trivial) fun _ => Patient.composed.fail _
  · exact Patient.composed.bind (.mark _) fun _ => Patient.composed.pure output

theorem Engine.waits_holdRelease {scope : Run ActionError RawJson} :
    (holdRelease master slave scope).Waits node other ↔
      scope.Waits (node.marked (.began (.scope .remove slave))) other := by
  rw [holdRelease, waits_bind_patient, waits_within]
  intro output
  refine Patient.composed.bind (Patient.mapError (.demand (.unlink master slave)) _) fun _ => ?_
  exact Patient.composed.bind (.mark _) fun _ => Patient.composed.pure output

end Operations

section Locking

variable {node : Node} {key : ObjectKey}

/-- What gives back all it took waits under a lock, or for it. -/
theorem GivesBack.waits_guarded {ε α : Type} {object : ObjectKey} {mode : LockMode} {body : Run ε α}
    (keeps : Keeps GivesBack body) (sound : node.guards.Sound) :
    (Run.guarded .shared object mode body).Waits node key ↔
      key = object ∧ node.guards.take? object.text mode = none ∨
      ∃ hold held, node.guards.take? object.text mode = some (hold, held) ∧
        body.Waits (node.withTable .shared held) key := by
  refine Run.waits_guarded fun hold held taken => (keeps _).imp fun _ after gives => ?_
  obtain ⟨kept, agrees⟩ := gives (GuardTable.Sound.take? taken sound)
  obtain ⟨left, leaves, -⟩ := GuardTable.leave?_take? taken sound agrees kept
  exact ⟨left, leaves⟩

theorem Resource.waits_dispatch {resource : Resource} {run : Program → Run ActionError RawJson}
    {object : ObjectKey} {request : Request} {action : Action} (shared : resource.guards = .shared)
    (described : resource.action? request.action = some action)
    (keeps : Keeps GivesBack (run (action.handler object request.payload)))
    (sound : node.guards.Sound) : (resource.dispatch run object request).Waits node key ↔
      key = object ∧ node.guards.take? object.text action.flags.mode = none ∨
      ∃ hold held mid, node.guards.take? object.text action.flags.mode = some (hold, held) ∧
        resource.checkTarget request.action action.flags object
          ((node.marked (.began (resource.dispatchFrame object request action))).withTable .shared
            held) = (.ok (), mid) ∧
        (run (action.handler object request.payload)).Waits
          (mid.marked (.began (resource.handlerFrame object request action))) key := by
  have holds : Keeps GivesBack (resource.holdDispatch run object request action) :=
    GivesBack.framing.holdDispatch GivesBack.performed GivesBack.performed trivial keeps
  have begun : (node.marked (.began (resource.dispatchFrame object request action))).guards.Sound :=
    sound
  rw [dispatch_eq, described, shared]
  dsimp only
  rw [waits_within, GivesBack.waits_guarded holds begun]
  simp only [waits_holdDispatch, exists_and_left]
  exact Iff.rfl

theorem Engine.waits_addDependency {engine : Engine} {master slave : ObjectKey}
    {scope : Run ActionError RawJson} (keeps : Keeps GivesBack scope) (sound : node.guards.Sound) :
    (engine.addDependency master slave scope).Waits node key ↔
      ∃ resource looked, engine.resolve master slave node = (.ok resource, looked) ∧
        (key = slave ∧ looked.guards.take? slave.text .shared = none ∨
        ∃ hold held recorded mid, looked.guards.take? slave.text .shared = some (hold, held) ∧
          checkAndReserve resource master slave
            ((looked.marked (.began (.dependency .add slave))).withTable .shared held) =
              (.ok recorded, mid) ∧
          scope.Waits (mid.marked (.began (.scope .add slave))) key) := by
  rw [addDependency, (Patient.asking.resolve trivial).waits_bind]
  refine exists_congr fun resource => exists_congr fun looked => and_congr_right fun resolved => ?_
  have asked := (ends_resolve.of_eq resolved).1
  have holds : Keeps GivesBack (holdReservation resource master slave scope) :=
    GivesBack.framing.holdReservation GivesBack.performed GivesBack.performed trivial keeps
  have begun : (looked.marked (.began (.dependency .add slave))).guards.Sound :=
    asked.guards.symm ▸ sound
  rw [addResolved_eq, waits_within, GivesBack.waits_guarded holds begun]
  simp only [waits_holdReservation, exists_and_left]
  exact Iff.rfl

theorem Engine.waits_removeDependency {engine : Engine} {master slave : ObjectKey}
    {scope : Run ActionError RawJson} (keeps : Keeps GivesBack scope) (sound : node.guards.Sound) :
    (engine.removeDependency master slave scope).Waits node key ↔
      ∃ resource looked, engine.resourceOf slave node = (.ok resource, looked) ∧
        (key = slave ∧ looked.guards.take? slave.text .shared = none ∨
        ∃ hold held, looked.guards.take? slave.text .shared = some (hold, held) ∧
          scope.Waits (((looked.marked (.began (.dependency .remove slave))).withTable .shared
            held).marked (.began (.scope .remove slave))) key) := by
  rw [removeDependency_eq, (Patient.asking.mapError _ (Patient.asking.resourceOf trivial)).waits_bind]
  simp only [mapError_eq_ok]
  refine exists_congr fun resource => exists_congr fun looked => and_congr_right fun found => ?_
  have asked := (ends_resourceOf.of_eq found).1
  have holds : Keeps GivesBack (holdRelease master slave scope) :=
    GivesBack.framing.holdRelease GivesBack.performed trivial keeps
  have begun : (looked.marked (.began (.dependency .remove slave))).guards.Sound :=
    asked.guards.symm ▸ sound
  rw [waits_within, GivesBack.waits_guarded holds begun]
  simp only [waits_holdRelease]
  exact Iff.rfl

end Locking

/-- The next step of the program is an operation. -/
def Program.Asks : Program → Prop
  | .call _ _ | .depend _ _ _ _ _ => True
  | .done _ | .panic _ | .note _ _ | .store _ _ | .look _ _ | .policy _ _ _ => False

theorem Program.patient_step {engine : Engine} {nested : Call → Run EngineError Response}
    {program : Program} (quiet : ¬program.Asks) : Patient (program.step engine nested) := by
  have composed := Patient.composed
  cases program with
  | done outcome => exact composed.bind (composed.ofExcept outcome) fun _ => composed.pure _
  | panic message => exact fun _ _ => nofun
  | note told next => exact composed.bind (.mark _) fun _ => composed.pure next
  | store query next => exact composed.bind (.ask query) fun _ => composed.pure _
  | look key next => exact composed.bind .look fun _ => composed.pure _
  | policy kind action next => exact composed.pure _
  | call | depend => exact absurd trivial quiet

namespace Point

variable {engine : Engine} {point : Point} {key : ObjectKey}

/-- At a point the next operation gets to where it needs the lock of an object in a mode. -/
inductive Needs (engine : Engine) : Point → ObjectKey → LockMode → Prop where
  | call {depth : Nat} {call : Call} {next : Except EngineError Response → Program} {node : Node}
      {resource : Resource} {action : Action} (registered : engine.resource? call.kind = some resource)
      (described : resource.action? call.request.action = some action) :
      Needs engine ⟨depth + 1, .call call next, node⟩ call.key action.flags.mode
  | reservation {depth : Nat} {master slave : ObjectKey} {scope : Program} {next : Outcome → Program}
      {node looked : Node} {resource : Resource}
      (resolved : engine.resolve master slave node = (.ok resource, looked)) :
      Needs engine ⟨depth, .depend .add master slave scope next, node⟩ slave .shared
  | release {depth : Nat} {master slave : ObjectKey} {scope : Program} {next : Outcome → Program}
      {node looked : Node} {resource : Resource}
      (found : engine.resourceOf slave node = (.ok resource, looked)) :
      Needs engine ⟨depth, .depend .remove master slave scope next, node⟩ slave .shared

theorem Needs.asks {mode : LockMode} (needs : point.Needs engine key mode) : point.rest.Asks := by
  cases needs <;> trivial

theorem Opens.asks {frame : Frame} {start : Point} (opens : Opens engine point frame start) :
    point.rest.Asks := by
  cases opens <;> trivial

/-- The lock cannot be had that the next operation needs. -/
def Stuck (engine : Engine) (point : Point) (key : ObjectKey) : Prop :=
  ∃ mode, point.Needs engine key mode ∧ point.node.guards.take? key.text mode = none

/-- The next operation waits: the run is stuck, or the body waits that the operation opens. -/
def HeldUp (engine : Engine) (point : Point) (key : ObjectKey) : Prop :=
  point.Stuck engine key ∨ ∃ frame start, Opens engine point frame start ∧
    (engine.run start.depth start.rest).Waits start.node key

section Waits

variable (built : engine.Built)

include built

section Operations

variable {depth : Nat} {node : Node} (sound : node.guards.Sound)

include sound

theorem waits_call {request : Call} {next : Except EngineError Response → Program} :
    (engine.call depth request).Waits node key ↔
      HeldUp engine ⟨depth, .call request next, node⟩ key := by
  constructor
  · intro waits
    cases depth with
    | zero => cases waits
    | succ depth =>
        rw [Engine.call] at waits
        split at waits
        next unknown => cases waits
        next resource registered =>
          cases described : resource.action? request.request.action with
          | none =>
              rw [Resource.dispatch_eq, described] at waits
              cases waits
          | some action =>
              have shared := built.guards (Engine.mem_of_resource? registered).1
              obtain ⟨rfl, refused⟩ | ⟨hold, held, mid, taken, passed, waits⟩ :=
                (Resource.waits_dispatch shared described (GivesBack.run built depth _) sound).mp waits
              · exact .inl ⟨_, .call registered described, refused⟩
              · rw [← shared] at passed
                have taken : (node.table resource.guards).take? request.key.text action.flags.mode =
                    some (hold, held) := by rwa [shared]
                exact .inr ⟨_, _, .handler registered described taken passed, waits⟩
  · rintro (⟨mode, needs, refused⟩ | ⟨frame, start, opens, waits⟩)
    · cases needs with
      | call registered described =>
          have shared := built.guards (Engine.mem_of_resource? registered).1
          rw [Engine.call, registered]
          exact (Resource.waits_dispatch shared described (GivesBack.run built _ _) sound).mpr
            (.inl ⟨rfl, refused⟩)
    · cases opens with
      | handler registered described taken passed =>
          have shared := built.guards (Engine.mem_of_resource? registered).1
          rw [shared] at taken passed
          rw [Engine.call, registered]
          exact (Resource.waits_dispatch shared described (GivesBack.run built _ _) sound).mpr
            (.inr ⟨_, _, _, taken, passed, waits⟩)

variable {master slave : ObjectKey} {scope : Program} {next : Outcome → Program}

theorem waits_reservation : (engine.addDependency master slave (engine.run depth scope)).Waits node key ↔
    HeldUp engine ⟨depth, .depend .add master slave scope next, node⟩ key := by
  rw [Engine.waits_addDependency (GivesBack.run built depth scope) sound]
  constructor
  · rintro ⟨resource, looked, resolved, ⟨rfl, refused⟩ |
      ⟨hold, held, recorded, mid, taken, checked, waits⟩⟩
    · have asked := (Engine.ends_resolve.of_eq resolved).1
      exact .inl ⟨_, .reservation resolved, asked.guards ▸ refused⟩
    · exact .inr ⟨_, _, .reservation resolved taken checked, waits⟩
  · rintro (⟨mode, needs, refused⟩ | ⟨frame, start, opens, waits⟩)
    · cases needs with
      | reservation resolved =>
          have asked := (Engine.ends_resolve.of_eq resolved).1
          exact ⟨_, _, resolved, .inl ⟨rfl, asked.guards.symm ▸ refused⟩⟩
    · cases opens with
      | reservation resolved taken checked =>
          exact ⟨_, _, resolved, .inr ⟨_, _, _, _, taken, checked, waits⟩⟩

theorem waits_release : (engine.removeDependency master slave (engine.run depth scope)).Waits node key ↔
    HeldUp engine ⟨depth, .depend .remove master slave scope next, node⟩ key := by
  rw [Engine.waits_removeDependency (GivesBack.run built depth scope) sound]
  constructor
  · rintro ⟨resource, looked, found, ⟨rfl, refused⟩ | ⟨hold, held, taken, waits⟩⟩
    · have asked := (ends_resourceOf.of_eq found).1
      exact .inl ⟨_, .release found, asked.guards ▸ refused⟩
    · exact .inr ⟨_, _, .release found taken, waits⟩
  · rintro (⟨mode, needs, refused⟩ | ⟨frame, start, opens, waits⟩)
    · cases needs with
      | release found =>
          have asked := (ends_resourceOf.of_eq found).1
          exact ⟨_, _, found, .inl ⟨rfl, asked.guards.symm ▸ refused⟩⟩
    · cases opens with
      | release found taken => exact ⟨_, _, found, .inr ⟨_, _, taken, waits⟩⟩

end Operations

theorem waits_step (sound : point.node.guards.Sound) :
    (point.rest.step engine (engine.call point.depth)).Waits point.node key ↔
      point.HeldUp engine key := by
  obtain ⟨depth, rest, node⟩ := point
  dsimp only at sound ⊢
  cases rest with
  | call request next =>
      rw [← waits_call built sound]
      exact (waits_bind_patient fun _ => Patient.composed.pure _).trans waits_attempt
  | depend change master slave scope next =>
      refine (waits_bind_patient fun _ => Patient.composed.pure _).trans (waits_attempt.trans ?_)
      cases change with
      | add => exact waits_reservation built sound
      | remove => exact waits_release built sound
  | done | panic | note | store | look | policy =>
      refine iff_of_false (Program.patient_step id node key) ?_
      rintro (⟨mode, needs, -⟩ | ⟨frame, start, opens, -⟩)
      · exact needs.asks
      · exact opens.asks

/-- A run waits in its next step, or after it. -/
theorem waits_run (sound : point.node.guards.Sound) :
    (engine.run point.depth point.rest).Waits point.node key ↔ point.HeldUp engine key ∨
      ∃ rest after, point.rest.step engine (engine.call point.depth) point.node = (.ok rest, after) ∧
        (engine.run point.depth rest).Waits after key := by
  rw [← waits_step built sound, Engine.run, Program.run_eq_step_bind, waits_bind]
  exact Iff.rfl

theorem Opens.sound {frame : Frame} {start : Point} (opens : Opens engine point frame start)
    (sound : point.node.guards.Sound) : start.node.guards.Sound := by
  obtain ⟨hold, taken⟩ := opens.takes built
  exact GuardTable.Sound.take? taken sound

theorem sound_step {rest : Program} {after : Node} (sound : point.node.guards.Sound)
    (steps : point.rest.step engine (engine.call point.depth) point.node = (.ok rest, after)) :
    after.guards.Sound :=
  ((GivesBack.step built _ _).of_eq steps sound).1

theorem Passes.sound {frames : List Frame} {moment : Point} (passes : Passes engine point frames moment)
    (sound : point.node.guards.Sound) : moment.node.guards.Sound := by
  induction passes with
  | here => exact sound
  | inside opens _ ih => exact ih (opens.sound built sound)
  | onward steps _ ih => exact ih (sound_step built sound steps)

theorem Passes.waits {frames : List Frame} {moment : Point} (passes : Passes engine point frames moment)
    (sound : point.node.guards.Sound)
    (waits : (engine.run moment.depth moment.rest).Waits moment.node key) :
    (engine.run point.depth point.rest).Waits point.node key := by
  induction passes with
  | here point => exact waits
  | inside opens _ ih =>
      rw [waits_run built sound]
      exact .inl (.inr ⟨_, _, opens, ih (opens.sound built sound) waits⟩)
  | onward steps _ ih =>
      rw [waits_run built sound]
      exact .inr ⟨_, _, steps, ih (sound_step built sound steps) waits⟩

end Waits

/-- A run gets from a point to one at which it is stuck. -/
def GetsStuck (engine : Engine) (point : Point) (key : ObjectKey) : Prop :=
  ∃ frames moment, Passes engine point frames moment ∧ moment.Stuck engine key

section GetsStuck

variable (built : engine.Built) {depth : Nat} {program : Program} {node : Node}

include built

theorem getsStuck_of_first {α : Type} {first : Run ActionError α} {next : α → Program}
    (steps : program.step engine (engine.call depth) = (first >>= fun a => pure (next a)))
    (opened : ∀ {frame start}, Opens engine ⟨depth, program, node⟩ frame start →
      start.node.guards.Sound → (engine.run start.depth start.rest).Waits start.node key →
        start.GetsStuck engine key)
    (goes : ∀ a {mid : Node}, mid.guards.Sound → (engine.run depth (next a)).Waits mid key →
      GetsStuck engine ⟨depth, next a, mid⟩ key)
    (sound : node.guards.Sound) (waits : (engine.run depth program).Waits node key) :
    GetsStuck engine ⟨depth, program, node⟩ key := by
  have begun : (Point.mk depth program node).node.guards.Sound := sound
  rcases (waits_run built begun).mp waits with
    (stuck | ⟨frame, start, opens, waits⟩) | ⟨rest, after, stepped, waits⟩
  · exact ⟨[], _, .here _, stuck⟩
  · obtain ⟨frames, moment, passes, stuck⟩ := opened opens (opens.sound built begun) waits
    exact ⟨_, moment, .inside opens passes, stuck⟩
  · have known := sound_step built begun stepped
    have goesOn := stepped
    rw [steps] at goesOn
    obtain ⟨a, mid, -, same⟩ := bind_eq_ok goesOn
    cases same
    obtain ⟨frames, moment, passes, stuck⟩ := goes a known waits
    exact ⟨frames, moment, .onward stepped passes, stuck⟩

/-- The bodies of dependency operations are parts of the program, those of calls have less depth to go. -/
theorem getsStuck_of_handled (handled : ∀ {less : Nat} {program : Program} {node : Node},
      depth = less + 1 → node.guards.Sound → (engine.run less program).Waits node key →
        GetsStuck engine ⟨less, program, node⟩ key)
    (sound : node.guards.Sound) (waits : (engine.run depth program).Waits node key) :
    GetsStuck engine ⟨depth, program, node⟩ key := by
  induction program generalizing node with
  | done outcome => exact absurd waits (Patient.composed.ofExcept outcome node key)
  | panic message => cases waits
  | note told next ih =>
      exact getsStuck_of_first built rfl (fun opens => opens.asks.elim) (fun _ _ => ih) sound waits
  | store query next ih =>
      exact getsStuck_of_first built rfl (fun opens => opens.asks.elim) (fun a _ => ih a) sound waits
  | look object next ih =>
      exact getsStuck_of_first built rfl (fun opens => opens.asks.elim) (fun _ _ => ih _) sound waits
  | policy kind action next ih =>
      obtain ⟨frames, moment, passes, stuck⟩ := ih _ sound waits
      exact ⟨frames, moment, .onward rfl passes, stuck⟩
  | call request next ih =>
      refine getsStuck_of_first built rfl (fun opens known waits => ?_) (fun a _ => ih a) sound waits
      cases opens with
      | handler => exact handled rfl known waits
  | depend change master slave scope next inner ih =>
      refine getsStuck_of_first built rfl (fun opens known waits => ?_) (fun a _ => ih a) sound waits
      cases opens with
      | reservation | release => exact inner known waits

/-- A run waits for the lock of an object just if it gets stuck there. -/
theorem waits_iff_getsStuck (sound : node.guards.Sound) :
    (engine.run depth program).Waits node key ↔ GetsStuck engine ⟨depth, program, node⟩ key := by
  constructor
  · intro waits
    induction depth generalizing program node with
    | zero => exact getsStuck_of_handled built (fun none => nomatch none) sound waits
    | succ depth ih =>
        refine getsStuck_of_handled built (fun same known waits => ?_) sound waits
        cases same
        exact ih known waits
  · rintro ⟨frames, moment, passes, stuck⟩
    have begun : (Point.mk depth program node).node.guards.Sound := sound
    refine passes.waits built begun ((waits_run built ?_).mpr (.inl (.inl stuck)))
    exact passes.sound built begun

end GetsStuck

end Point

end Provision
