import Provision.Proofs.Guard.Balance
import Provision.Proofs.Guard.Undisturbed
import Provision.Proofs.Logging.Told

/-! # The dispatches that a run makes

A run makes a dispatch wherever it gets to a call of the engine that is dispatched. Its history tells of just
these dispatches, one after the other and one in the other as they are made.
-/

namespace Provision

open Run Node

namespace Point

variable {engine : Engine}

/-- At a point a call is dispatched. -/
inductive Dispatches (engine : Engine) : Point → Dispatched → Prop where
  | call {depth : Nat} {call : Call} {next : Except EngineError Response → Program} {node : Node}
      {resource : Resource} {action : Action} (registered : engine.resource? call.kind = some resource)
      (described : resource.action? call.request.action = some action) :
      Dispatches engine ⟨depth + 1, .call call next, node⟩
        ⟨⟨resource.name, call.request.action, call.key⟩, (engine.call (depth + 1) call node).1, node.history,
          (engine.call (depth + 1) call node).2.history⟩

/-- On the way from a point a dispatch is made. -/
def Makes (engine : Engine) (point : Point) (dispatched : Dispatched) : Prop :=
  ∃ frames moment, Passes engine point frames moment ∧ Dispatches engine moment dispatched

/-- In a body that is opened at a point a dispatch is made. -/
def MakesInside (engine : Engine) (point : Point) (dispatched : Dispatched) : Prop :=
  ∃ frame start, Opens engine point frame start ∧ Makes engine start dispatched

variable {point start : Point} {frame : Frame} {dispatched : Dispatched}

theorem makes_iff : Makes engine point dispatched ↔
    (Dispatches engine point dispatched ∨ MakesInside engine point dispatched) ∨
      ∃ rest after, point.rest.step engine (engine.call point.depth) point.node = (.ok rest, after) ∧
        Makes engine ⟨point.depth, rest, after⟩ dispatched := by
  constructor
  · rintro ⟨frames, moment, passes, dispatches⟩
    cases passes with
    | here => exact .inl (.inl dispatches)
    | inside opens passes => exact .inl (.inr ⟨_, _, opens, _, _, passes, dispatches⟩)
    | onward steps passes => exact .inr ⟨_, _, steps, _, _, passes, dispatches⟩
  · rintro ((dispatches | ⟨frame, start, opens, frames, moment, passes, dispatches⟩) |
      ⟨rest, after, steps, frames, moment, passes, dispatches⟩)
    · exact ⟨[], point, .here point, dispatches⟩
    · exact ⟨_, moment, .inside opens passes, dispatches⟩
    · exact ⟨frames, moment, .onward steps passes, dispatches⟩

/-- A body that has ended makes nothing any more. -/
theorem not_makes_done {depth : Nat} {outcome : Outcome} {node : Node} :
    ¬Makes engine ⟨depth, .done outcome, node⟩ dispatched := by
  rintro ⟨frames, moment, passes, dispatches⟩
  have ended : ∃ outcome, moment.rest = .done outcome := by
    generalize first : Point.mk depth (.done outcome) node = point at passes
    clear dispatches
    induction passes generalizing depth outcome node with
    | here =>
        subst first
        exact ⟨outcome, rfl⟩
    | inside opens _ ih =>
        subst first
        cases opens
    | onward steps _ ih =>
        subst first
        cases outcome with
        | ok output =>
            cases steps
            exact ih rfl
        | error error => cases steps
  obtain ⟨outcome, same⟩ := ended
  cases dispatches
  cases same

end Point

/-- A node whose guards are sound and whose history tells its store. -/
structure Node.Sane (node : Node) : Prop where
  sound : node.guards.Sound
  traced : node.Traced fun _ => True

/-- A node between two steps of a body: what is done next is not done by a dispatch itself. -/
structure Node.Regular (node : Node) : Prop extends Node.Sane node where
  outside : inDispatch node.history = false

def KeepsTraced (node after : Node) : Prop := (node.Traced fun _ => True) → after.Traced fun _ => True

theorem KeepsTraced.lockless : Lockless (fun _ => True) KeepsTraced where
  refl _ traced := traced
  trans _ _ _ first second traced := second (first traced)
  consulted asked := asked.traced fun _ _ _ _ => trivial
  began _ _ _ traced := traced.marked rfl trivial
  ended _ _ _ traced := traced.marked rfl trivial
  table _ _ _ traced := traced.withTable

theorem KeepsTraced.running (known : ObjectKey → Prop) : Running known fun body => Keeps KeepsTraced body :=
  lockless.running fun _ done traced => done.traced (fun _ _ _ _ => trivial) traced fun _ _ _ _ => trivial

section Any

variable {K : ∀ {ε α : Type}, Run ε α → Prop} (running : Running (fun _ => True) K) {engine : Engine}
  (built : engine.Built) (depth : Nat)

include running built

theorem Run.Running.call_any (call : Call) : K (engine.call depth call) :=
  running.call built (fun _ _ _ _ _ _ _ _ => Program.confined_of_all (Deed.within_of_all fun _ => trivial) _)
    depth call trivial

theorem Run.Running.run_any (program : Program) : K (engine.run depth program) :=
  running.program_run (fun other _ => running.call_any built depth other)
    (program.confined_of_all (Deed.within_of_all fun _ => trivial))

end Any

namespace Node

variable {ε α : Type} {node after : Node} {body : Run ε α} {engine : Engine}

/-- What is put together as the engine does it keeps a node sane. -/
theorem Sane.of_running {result : Except (Halt ε) α} (sane : node.Sane)
    (composed : ∀ {K : ∀ {ε α : Type}, Run ε α → Prop}, Running (fun _ => True) K → K body)
    (ran : body node = (result, after)) : after.Sane where
  sound := ((composed (GivesBack.running _)).of_eq ran sane.sound).1
  traced := (composed (KeepsTraced.running _)).of_eq ran sane.traced

theorem Sane.marked {mark : Mark} (sane : node.Sane)
    (same : storeAfter (mark :: node.history) = storeAfter node.history) : (node.marked mark).Sane :=
  ⟨sane.sound, sane.traced.marked same trivial⟩

theorem Sane.withTable {table : GuardTable} (sane : node.Sane) (sound : table.Sound) :
    (node.withTable .shared table).Sane :=
  ⟨sound, KeepsTraced.lockless.table node .shared table sane.traced⟩

theorem Regular.of_tells {made : List Dispatched} (regular : node.Regular) (sane : after.Sane)
    (tells : Tells node.history after.history made) : after.Regular where
  toSane := sane
  outside := by
    rw [inDispatch, tells.open_eq.1]
    exact regular.outside

theorem Sane.run (built : engine.Built) {depth : Nat} {program : Program}
    {result : Except (Halt ActionError) RawJson} (sane : node.Sane)
    (ran : engine.run depth program node = (result, after)) : after.Sane :=
  sane.of_running (fun running => running.run_any built depth program) ran

end Node

theorem Run.exists_ran_iff {ε α : Type} {body : Run ε α} {node mid : Node} {value : α} {P : α → Node → Prop}
    (ran : body node = (.ok value, mid)) :
    (∃ other after, body node = (.ok other, after) ∧ P other after) ↔ P value mid := by
  constructor
  · rintro ⟨other, after, ran', holds⟩
    cases ran.symm.trans ran'
    exact holds
  · exact fun holds => ⟨value, mid, ran, holds⟩

theorem Run.ends_mapError_ran {ε ε' α : Type} {f : ε' → ε} {body : Run ε' α} {node : Node} :
    (mapError f body).Ends node fun result after => match result with
      | .ok value => body node = (.ok value, after)
      | .error _ => ∃ halt, body node = (.error halt, after) := by
  rw [ends_mapError, Ends]
  cases body node with
  | mk result after =>
      cases result with
      | ok => rfl
      | error halt => exact ⟨halt, rfl⟩

theorem Run.Ends.with_eq {ε α : Type} {body : Run ε α} {node : Node} {post : Except (Halt ε) α → Node → Prop}
    (ends : body.Ends node post) :
    body.Ends node fun result after => body node = (result, after) ∧ post result after := ⟨rfl, ends⟩

/-- What is done in a frame under a lock is done on a sane node, unless the lock has to be waited for. -/
theorem ends_locked {ε α : Type} {frame : Frame} {key : ObjectKey} {mode : LockMode} {body : Run ε α} {node : Node}
    (keeps : Keeps GivesBack body) (sane : node.Sane) :
    (within frame (guarded .shared key mode body)).Ends node fun result after =>
      (node.guards.take? key.text mode = none ∧ result = .error (.waits key) ∧
        after.history = .ended frame :: .began frame :: node.history) ∨
      ∃ hold held last, node.guards.take? key.text mode = some (hold, held) ∧
        ((node.marked (.began frame)).withTable .shared held).Sane ∧
        body ((node.marked (.began frame)).withTable .shared held) = (result, last) ∧
        after.history = .ended frame :: last.history := by
  rw [ends_within]
  cases taken : node.guards.take? key.text mode with
  | none =>
      have waits : guarded .shared key mode body (node.marked (.began frame)) = (.error (.waits key), _) :=
        guarded_of_refused taken
      rw [Ends, waits]
      exact .inl ⟨rfl, rfl, rfl⟩
  | some pair =>
      obtain ⟨hold, held⟩ := pair
      have begun : (node.marked (.began frame)).Sane := sane.marked rfl
      have taken' : (node.marked (.began frame)).guards.take? key.text mode = some (hold, held) := taken
      obtain ⟨left, -, -, ran⟩ := GivesBack.guarded_of_taken keeps begun.sound taken'
      rw [Ends, ran]
      exact .inr ⟨hold, held, _, rfl, begun.withTable (GuardTable.Sound.take? taken begun.sound), rfl, rfl⟩

/-! ## One step of a body -/

section Bodies

variable {engine : Engine} {depth : Nat}

/-- What is told of the dispatches of every body that is run from a regular node. -/
def Tallied (engine : Engine) (depth : Nat) (program : Program) : Prop :=
  ∀ node : Node, node.Regular → ∃ made, Tells node.history (engine.run depth program node).2.history made ∧
    ∀ dispatched, dispatched ∈ made ↔ Point.Makes engine ⟨depth, program, node⟩ dispatched

/-- A body that is run in a frame of its own. -/
theorem Tallied.framed {program : Program} {frame : Frame} (tallied : Tallied engine depth program)
    (body : frame.Body) {mid done : Node} {outcome : Except (Halt ActionError) RawJson} (sane : mid.Sane)
    (ran : engine.run depth program (mid.marked (.began frame)) = (outcome, done)) : ∃ made,
      Tells mid.history (done.marked (.ended frame)).history made ∧
        ∀ dispatched, dispatched ∈ made ↔
          Point.Makes engine ⟨depth, program, mid.marked (.began frame)⟩ dispatched := by
  have regular : (mid.marked (.began frame)).Regular := by
    refine ⟨sane.marked rfl, ?_⟩
    cases frame with
    | handler | scope => rfl
    | dispatch | dependency => exact body.elim
  obtain ⟨made, tells, exactly⟩ := tallied _ regular
  rw [ran] at tells
  refine ⟨made, .framed ?_ tells, exactly⟩
  rintro span mode rfl
  exact body

theorem ends_holdDispatch_told {resource : Resource} {key : ObjectKey} {request : Request} {action : Action}
    {start : Node} (built : engine.Built) (sane : start.Sane)
    (tallied : Tallied engine depth (action.handler key request.payload)) :
    (resource.holdDispatch (engine.run depth) key request action).Ends start fun result last => ∃ made,
      Finishes ⟨resource.name, request.action, key⟩ start.history made result last.history ∧
        ∀ dispatched, dispatched ∈ made ↔ ∃ passed mid,
          resource.checkTarget request.action action.flags key start = (.ok passed, mid) ∧
            Point.Makes engine ⟨depth, action.handler key request.payload,
              mid.marked (.began (resource.handlerFrame key request action))⟩ dispatched := by
  refine (Resource.ends_checkTarget_told.with_eq).bind ?_ ?_
  · rintro ⟨⟩ mid ⟨passed, checks⟩
    have silent : Silent start mid := by
      cases checks with
      | other _ silent => exact silent
    have sane' : mid.Sane := sane.of_running (fun running => running.demands.checkTarget trivial) passed
    simp only [exists_ran_iff passed]
    have handler : (resource.handlerFrame key request action).Body := trivial
    apply ends_attempt_within.bind
    · intro outcome after both
      obtain ⟨outcome', done, ran, same, rfl⟩ := both
      have ended := caught_eq_ok same.symm
      subst ended
      obtain ⟨made, handled, exactly⟩ := tallied.framed handler sane' ran
      have tells := silent.then_tells handled
      cases outcome with
      | ok output =>
          have known := ((sane'.marked rfl).run built ran).traced.store
          have follows : (Resource.afterSuccess request.action key output).Ends _ fun result last =>
              Finishes ⟨resource.name, request.action, key⟩ start.history made result last.history :=
            Resource.ends_afterSuccess_told tells known
          exact follows.imp fun result last finishes => ⟨made, finishes, exactly⟩
      | error error =>
          have follows : (Resource.afterFailure action.flags key error).Ends _ fun result last =>
              Finishes ⟨resource.name, request.action, key⟩ start.history made result last.history :=
            Resource.ends_afterFailure_told tells
          exact follows.imp fun result last finishes => ⟨made, finishes, exactly⟩
    · intro halt after both
      obtain ⟨outcome, done, ran, same, rfl⟩ := both
      obtain ⟨made, handled, exactly⟩ := tallied.framed handler sane' ran
      have tells := silent.then_tells handled
      exact ⟨made, ⟨_, [], tells, .other (isRefusal_of_caught same.symm), rfl⟩, exactly⟩
  · rintro halt mid ⟨stopped, checks⟩
    refine ⟨[], ?_, fun dispatched => ⟨nofun, ?_⟩⟩
    · cases checks with
      | other kept silent => exact ⟨mid.history, [], silent.tells, .other kept, rfl⟩
      | @refused mid deleting silent => exact ⟨mid.history, _, silent.tells, .refused deleting, rfl⟩
    · rintro ⟨_, _, passed, -⟩
      cases stopped.symm.trans passed

theorem ends_holdReservation_told {resource : Resource} {master slave : ObjectKey} {scope : Program} {start : Node}
    (sane : start.Sane) (tallied : Tallied engine depth scope) :
    (Engine.holdReservation resource master slave (engine.run depth scope)).Ends start fun _ last => ∃ made,
      Tells start.history last.history made ∧ ∀ dispatched, dispatched ∈ made ↔ ∃ recorded mid,
        Engine.checkAndReserve resource master slave start = (.ok recorded, mid) ∧
          Point.Makes engine ⟨depth, scope, mid.marked (.began (.scope .add slave))⟩ dispatched := by
  refine ends_mapError_ran.bind ?_ ?_
  · intro recorded mid passed
    have silent : Silent start mid := silent_checkAndReserve.of_eq passed
    have sane' : mid.Sane := sane.of_running (fun running => running.checkAndReserve trivial trivial) passed
    have inner : (Frame.scope .add slave).Body := trivial
    simp only [exists_ran_iff passed]
    apply ends_attempt_within.bind
    · intro outcome after both
      obtain ⟨outcome', done, ran, -, rfl⟩ := both
      obtain ⟨made, tells, exactly⟩ := tallied.framed inner sane' ran
      have ends : ∀ {close : Run ActionError RawJson}, Keeps Silent close →
          close.Ends (done.marked (.ended (.scope .add slave))) fun _ last => ∃ made,
            Tells start.history last.history made ∧ ∀ dispatched, dispatched ∈ made ↔
              Point.Makes engine ⟨depth, scope, mid.marked (.began (.scope .add slave))⟩ dispatched :=
        fun quiet => (quiet _).imp fun result last further =>
          ⟨made, (silent.then_tells tells).then_silent further, exactly⟩
      cases outcome with
      | ok output =>
          exact ends (silent_composed.bind (silent_report ⟨nofun, nofun⟩) fun _ => silent_composed.pure output)
      | error error => exact ends (silent_composed.bind silent_withdraw fun _ => silent_composed.fail error)
    · intro halt after both
      obtain ⟨outcome', done, ran, -, rfl⟩ := both
      obtain ⟨made, tells, exactly⟩ := tallied.framed inner sane' ran
      exact ⟨made, silent.then_tells tells, exactly⟩
  · rintro halt mid ⟨_, stopped⟩
    have silent : Silent start mid := silent_checkAndReserve.of_eq stopped
    refine ⟨[], silent.tells, fun dispatched => ⟨nofun, ?_⟩⟩
    rintro ⟨recorded, mid, passed, -⟩
    cases stopped.symm.trans passed

theorem ends_holdRelease_told {master slave : ObjectKey} {scope : Program} {start : Node}
    (sane : start.Sane) (tallied : Tallied engine depth scope) :
    (Engine.holdRelease master slave (engine.run depth scope)).Ends start fun _ last => ∃ made,
      Tells start.history last.history made ∧ ∀ dispatched, dispatched ∈ made ↔
        Point.Makes engine ⟨depth, scope, start.marked (.began (.scope .remove slave))⟩ dispatched := by
  have inner : (Frame.scope .remove slave).Body := trivial
  obtain ⟨made, tells, exactly⟩ := tallied.framed inner sane rfl
  have runs : (within (.scope .remove slave) (engine.run depth scope)).Ends start fun _ after =>
      Tells start.history after.history made := ends_within.mpr tells
  refine runs.bind ?_ fun halt after tells => ⟨made, tells, exactly⟩
  intro output after tells
  have ends : Keeps Silent (do
      (demand (.unlink master slave)).mapError .engine
      report (.dependencyRemoved master slave)
      return output : Run ActionError RawJson) := by
    have unlinks : Keeps Silent (demand (.unlink master slave)) := silent_demand nofun
    exact silent_composed.bind (unlinks.mapError _) fun _ =>
      silent_composed.bind (silent_report ⟨nofun, nofun⟩) fun _ => silent_composed.pure output
  exact (ends after).imp fun result last quiet => ⟨made, tells.then_silent quiet, exactly⟩

end Bodies

namespace Point

variable {engine : Engine} {depth : Nat} {node looked : Node} {call : Call} {resource : Resource} {action : Action}
  {next : Except EngineError Response → Program} {after : Outcome → Program} {master slave : ObjectKey}
  {scope : Program} {hold : Hold} {held : GuardTable} {dispatched : Dispatched}

theorem dispatches_iff (registered : engine.resource? call.kind = some resource)
    (described : resource.action? call.request.action = some action) :
    Dispatches engine ⟨depth + 1, .call call next, node⟩ dispatched ↔
      dispatched = ⟨⟨resource.name, call.request.action, call.key⟩, (engine.call (depth + 1) call node).1,
        node.history, (engine.call (depth + 1) call node).2.history⟩ := by
  constructor
  · intro dispatches
    cases dispatches with
    | call registered' described' =>
        cases registered.symm.trans registered'
        rfl
  · rintro rfl
    exact .call registered described

/-- In the handler of a dispatch on a node a dispatch is made: the lock is taken before, and the checks are
    passed. -/
def Handles (engine : Engine) (depth : Nat) (resource : Resource) (action : Action) (key : ObjectKey)
    (request : Request) (node : Node) (dispatched : Dispatched) : Prop :=
  ∃ hold held mid, node.guards.take? key.text action.flags.mode = some (hold, held) ∧
    resource.checkTarget request.action action.flags key
        ((node.marked (.began (resource.dispatchFrame key request action))).withTable .shared held) =
      (.ok (), mid) ∧
    Makes engine ⟨depth, action.handler key request.payload,
      mid.marked (.began (resource.handlerFrame key request action))⟩ dispatched

theorem makesInside_call_iff (registered : engine.resource? call.kind = some resource)
    (described : resource.action? call.request.action = some action) (shared : resource.guards = .shared) :
    MakesInside engine ⟨depth + 1, .call call next, node⟩ dispatched ↔
      Handles engine depth resource action call.key call.request node dispatched := by
  rw [Handles, ← shared]
  have table : node.table resource.guards = node.guards := by
    rw [shared]
    rfl
  rw [← table]
  constructor
  · rintro ⟨frame, start, opens, makes⟩
    cases opens with
    | handler registered' described' taken passed =>
        cases registered.symm.trans registered'
        cases described.symm.trans described'
        exact ⟨_, _, _, taken, passed, makes⟩
  · rintro ⟨hold, held, mid, taken, passed, makes⟩
    exact ⟨_, _, .handler registered described taken passed, makes⟩

theorem makesInside_add_iff (resolved : engine.resolve master slave node = (.ok resource, looked))
    (taken : looked.guards.take? slave.text .shared = some (hold, held)) :
    MakesInside engine ⟨depth, .depend .add master slave scope after, node⟩ dispatched ↔ ∃ recorded mid,
      Engine.checkAndReserve resource master slave
          ((looked.marked (.began (.dependency .add slave))).withTable .shared held) = (.ok recorded, mid) ∧
      Makes engine ⟨depth, scope, mid.marked (.began (.scope .add slave))⟩ dispatched := by
  constructor
  · rintro ⟨frame, start, opens, makes⟩
    cases opens with
    | reservation resolved' taken' checked =>
        cases resolved.symm.trans resolved'
        cases taken.symm.trans taken'
        exact ⟨_, _, checked, makes⟩
  · rintro ⟨recorded, mid, checked, makes⟩
    exact ⟨_, _, .reservation resolved taken checked, makes⟩

theorem makesInside_remove_iff (found : engine.resourceOf slave node = (.ok resource, looked))
    (taken : looked.guards.take? slave.text .shared = some (hold, held)) :
    MakesInside engine ⟨depth, .depend .remove master slave scope after, node⟩ dispatched ↔
      Makes engine ⟨depth, scope, ((looked.marked (.began (.dependency .remove slave))).withTable .shared
        held).marked (.began (.scope .remove slave))⟩ dispatched := by
  constructor
  · rintro ⟨frame, start, opens, makes⟩
    cases opens with
    | release found' taken' =>
        cases found.symm.trans found'
        cases taken.symm.trans taken'
        exact makes
  · exact fun makes => ⟨_, _, .release found taken, makes⟩

end Point

namespace Point

variable {engine : Engine} {depth : Nat} {program rest : Program} {node after : Node} {dispatched : Dispatched}

theorem makes_iff_of_ok (steps : program.step engine (engine.call depth) node = (.ok rest, after)) :
    Makes engine ⟨depth, program, node⟩ dispatched ↔
      (Dispatches engine ⟨depth, program, node⟩ dispatched ∨ MakesInside engine ⟨depth, program, node⟩ dispatched) ∨
        Makes engine ⟨depth, rest, after⟩ dispatched :=
  makes_iff.trans (or_congr_right (exists_ran_iff steps))

theorem makes_iff_of_error {halt : Halt ActionError}
    (steps : program.step engine (engine.call depth) node = (.error halt, after)) :
    Makes engine ⟨depth, program, node⟩ dispatched ↔
      Dispatches engine ⟨depth, program, node⟩ dispatched ∨ MakesInside engine ⟨depth, program, node⟩ dispatched := by
  refine makes_iff.trans (or_iff_left ?_)
  rintro ⟨rest, after, steps', -⟩
  cases steps.symm.trans steps'

end Point

section Steps

variable {engine : Engine} {depth : Nat}

/-- What a step told of is what is dispatched at the point and in the bodies opened there. -/
def Told (engine : Engine) (point : Point) (now : List Mark) : Prop :=
  ∃ made, Tells point.node.history now made ∧ ∀ dispatched, dispatched ∈ made ↔
    point.Dispatches engine dispatched ∨ point.MakesInside engine dispatched

/-- A body is accounted for if its first step is, and what comes after it. -/
theorem Tallied.of_step {α : Type} {program : Program} {first : Run ActionError α} {next : α → Program}
    (steps : program.step engine (engine.call depth) = (first >>= fun a => pure (next a)))
    (composed : ∀ {K : ∀ {ε α : Type}, Run ε α → Prop}, Running (fun _ => True) K → K first)
    (begins : ∀ node : Node, node.Regular →
      first.Ends node fun _ mid => Told engine ⟨depth, program, node⟩ mid.history)
    (rest : ∀ a, Tallied engine depth (next a)) : Tallied engine depth program := by
  intro node regular
  obtain ⟨made, tells, exactly⟩ := begins node regular
  have split : engine.run depth program = first >>= fun a => engine.run depth (next a) := by
    rw [Engine.run, Program.run_eq_step_bind, steps, bind_assoc]
    rfl
  cases ran : first node with
  | mk result mid =>
      rw [ran] at tells
      have sane := regular.toSane.of_running composed ran
      cases result with
      | ok a =>
          obtain ⟨later, tells', exactly'⟩ := rest a mid (regular.of_tells sane tells)
          have stepped : program.step engine (engine.call depth) node = (.ok (next a), mid) := by
            rw [steps]
            exact bind_of_ok ran
          rw [split, bind_of_ok ran]
          refine ⟨made ++ later, tells.trans tells', fun dispatched => ?_⟩
          rw [List.mem_append, exactly, exactly', Point.makes_iff_of_ok stepped]
      | error halt =>
          have stepped : program.step engine (engine.call depth) node = (.error halt, mid) := by
            rw [steps]
            exact bind_of_error ran
          rw [split, bind_of_error ran]
          refine ⟨made, tells, fun dispatched => ?_⟩
          rw [exactly, Point.makes_iff_of_error stepped]

/-- A step that opens nothing and dispatches nothing. -/
theorem Told.of_tells {point : Point} {now : List Mark} (tells : Tells point.node.history now [])
    (dispatches : ∀ dispatched, ¬point.Dispatches engine dispatched)
    (opens : ∀ frame start, ¬point.Opens engine frame start) : Told engine point now := by
  refine ⟨[], tells, fun dispatched => ⟨nofun, ?_⟩⟩
  rintro (now | ⟨frame, start, opened, -⟩)
  · exact absurd now (dispatches dispatched)
  · exact absurd opened (opens frame start)

/-- A call that nothing is dispatched for does nothing. -/
theorem told_undispatched {call : Call} {next : Except EngineError Response → Program} {node after : Node}
    (same : after = node) (none : ∀ resource action, engine.resource? call.kind = some resource →
      resource.action? call.request.action ≠ some action) :
    Told engine ⟨depth + 1, .call call next, node⟩ after.history := by
  subst same
  refine .of_tells (.nil _) (fun dispatched dispatches => ?_) fun frame start opens => ?_
  · cases dispatches with
    | call registered described => exact none _ _ registered described
  · cases opens with
    | handler registered described => exact none _ _ registered described

variable (built : engine.Built)

include built

/-- A dispatch tells of what its handler makes, and last of itself. -/
theorem ends_dispatch_told {resource : Resource} {key : ObjectKey} {request : Request} {action : Action}
    (shared : resource.guards = .shared) (described : resource.action? request.action = some action)
    (handled : Tallied engine depth (action.handler key request.payload)) {node : Node} (sane : node.Sane) :
    (resource.dispatch (engine.run depth) key request).Ends node fun result after => ∃ made,
      Tells node.history after.history made ∧ ∀ dispatched, dispatched ∈ made ↔
        dispatched = ⟨⟨resource.name, request.action, key⟩, result, node.history, after.history⟩ ∨
          Point.Handles engine depth resource action key request node dispatched := by
  have parts : resource.dispatch (engine.run depth) key request =
      within (resource.dispatchFrame key request action)
        (guarded .shared key action.flags.mode (resource.holdDispatch (engine.run depth) key request action)) := by
    simp only [Resource.dispatch_eq, described, shared]
  have keeps : Keeps GivesBack (resource.holdDispatch (engine.run depth) key request action) :=
    GivesBack.framing.holdDispatch GivesBack.performed GivesBack.performed trivial (GivesBack.run built depth _)
  rw [parts]
  refine (ends_locked keeps sane).imp fun result after course => ?_
  rcases course with ⟨waits, rfl, history⟩ | ⟨hold, held, last, taken, sane', ran, history⟩
  · rw [history]
    have kept : isRefusal (.error (.waits key) : Except (Halt EngineError) Response) = false := rfl
    refine ⟨_, (Tells.nil _).dispatched (.other kept), fun dispatched => ?_⟩
    rw [List.nil_append, List.mem_singleton, or_iff_left]
    · rfl
    · rintro ⟨hold, held, mid, taken, -⟩
      cases waits.symm.trans taken
  · obtain ⟨made, ⟨now, marks, tells, closes, last'⟩, exactly⟩ :=
      (ends_holdDispatch_told built sane' handled).of_eq ran
    rw [history, last']
    refine ⟨_, tells.dispatched closes, fun dispatched => ?_⟩
    rw [List.mem_append, List.mem_singleton, exactly, or_comm]
    refine or_congr_right ⟨?_, ?_⟩
    · rintro ⟨⟨⟩, mid, passed, makes⟩
      exact ⟨hold, held, mid, taken, passed, makes⟩
    · rintro ⟨hold', held', mid, taken', passed, makes⟩
      cases taken.symm.trans taken'
      exact ⟨(), mid, passed, makes⟩

theorem told_dispatched {call : Call} {next : Except EngineError Response → Program} {resource : Resource}
    {action : Action} (registered : engine.resource? call.kind = some resource)
    (described : resource.action? call.request.action = some action)
    (handled : ∀ program, Tallied engine depth program) {node : Node} (regular : node.Regular) :
    (engine.call (depth + 1) call).Ends node fun _ after =>
      Told engine ⟨depth + 1, .call call next, node⟩ after.history := by
  have shared := built.guards (Engine.mem_of_resource? registered).1
  have calls : engine.call (depth + 1) call = resource.dispatch (engine.run depth) call.key call.request := by
    simp only [Engine.call, registered]
    rfl
  have handled' := handled (action.handler call.key call.request.payload)
  rw [calls]
  refine (ends_dispatch_told built shared described handled' regular.toSane).with_eq.imp fun result after both => ?_
  obtain ⟨ran, made, tells, exactly⟩ := both
  refine ⟨made, tells, fun dispatched => ?_⟩
  rw [exactly, Point.dispatches_iff registered described, Point.makesInside_call_iff registered described shared,
    calls, ran]

theorem told_call {call : Call} {next : Except EngineError Response → Program}
    (handled : ∀ program, Tallied engine depth program) {node : Node} (regular : node.Regular) :
    (engine.call (depth + 1) call).Ends node fun _ after =>
      Told engine ⟨depth + 1, .call call next, node⟩ after.history := by
  cases registered : engine.resource? call.kind with
  | none =>
      refine told_undispatched ?_ fun resource action registered' => ?_
      · simp only [Engine.call, registered]
        rfl
      · cases registered.symm.trans registered'
  | some resource =>
      cases described : resource.action? call.request.action with
      | none =>
          refine told_undispatched ?_ fun resource' action registered' described' => ?_
          · simp only [Engine.call, registered, Resource.dispatch_eq, described]
            rfl
          · cases registered.symm.trans registered'
            cases described.symm.trans described'
      | some action => exact told_dispatched built registered described handled regular

/-- A reservation tells of what its scope makes. -/
theorem told_add {master slave : ObjectKey} {scope : Program} {next : Outcome → Program}
    (inner : Tallied engine depth scope) {node : Node} (regular : node.Regular) :
    (engine.addDependency master slave (engine.run depth scope)).Ends node fun _ after =>
      Told engine ⟨depth, .depend .add master slave scope next, node⟩ after.history := by
  refine (silent_resolve node).with_eq.bind ?_ ?_
  · intro resource looked both
    obtain ⟨resolved, silent⟩ := both
    have sane := regular.toSane.of_running (fun running => running.resolve trivial) resolved
    have keeps : Keeps GivesBack (Engine.holdReservation resource master slave (engine.run depth scope)) :=
      GivesBack.framing.holdReservation GivesBack.performed GivesBack.performed trivial
        (GivesBack.run built depth scope)
    rw [Engine.addResolved_eq]
    refine (ends_locked keeps sane).imp fun result after course => ?_
    rcases course with ⟨waits, -, history⟩ | ⟨hold, held, last, taken, sane', ran, history⟩
    · rw [history]
      refine .of_tells (silent.then_tells (.framed nofun (.nil _))) nofun fun frame start opens => ?_
      cases opens with
      | reservation resolved' taken =>
          cases resolved.symm.trans resolved'
          cases waits.symm.trans taken
    · obtain ⟨made, tells, exactly⟩ := (ends_holdReservation_told sane' inner).of_eq ran
      rw [history]
      refine ⟨made, silent.then_tells (.framed nofun tells), fun dispatched => ?_⟩
      rw [exactly, ← Point.makesInside_add_iff resolved taken, or_iff_right]
      nofun
  · intro halt looked both
    obtain ⟨stopped, silent⟩ := both
    refine .of_tells silent.tells nofun fun frame start opens => ?_
    cases opens with
    | reservation resolved => cases stopped.symm.trans resolved

/-- A release tells of what its scope makes. -/
theorem told_remove {master slave : ObjectKey} {scope : Program} {next : Outcome → Program}
    (inner : Tallied engine depth scope) {node : Node} (regular : node.Regular) :
    (engine.removeDependency master slave (engine.run depth scope)).Ends node fun _ after =>
      Told engine ⟨depth, .depend .remove master slave scope next, node⟩ after.history := by
  rw [Engine.removeDependency_eq]
  refine ends_mapError_ran.bind ?_ ?_
  · intro resource looked found
    have silent : Silent node looked := silent_resourceOf.of_eq found
    have sane := regular.toSane.of_running (fun running => running.resourceOf trivial) found
    have keeps : Keeps GivesBack (Engine.holdRelease master slave (engine.run depth scope)) :=
      GivesBack.framing.holdRelease GivesBack.performed trivial (GivesBack.run built depth scope)
    refine (ends_locked keeps sane).imp fun result after course => ?_
    rcases course with ⟨waits, -, history⟩ | ⟨hold, held, last, taken, sane', ran, history⟩
    · rw [history]
      refine .of_tells (silent.then_tells (.framed nofun (.nil _))) nofun fun frame start opens => ?_
      cases opens with
      | release found' taken =>
          cases found.symm.trans found'
          cases waits.symm.trans taken
    · obtain ⟨made, tells, exactly⟩ := (ends_holdRelease_told sane' inner).of_eq ran
      rw [history]
      refine ⟨made, silent.then_tells (.framed nofun tells), fun dispatched => ?_⟩
      rw [exactly, ← Point.makesInside_remove_iff found taken, or_iff_right]
      nofun
  · rintro halt looked ⟨_, stopped⟩
    have silent : Silent node looked := silent_resourceOf.of_eq stopped
    refine .of_tells silent.tells nofun fun frame start opens => ?_
    cases opens with
    | release found => cases stopped.symm.trans found

/-- A body is accounted for if the calls in it are. -/
theorem tallied_of_calls (calls : ∀ (call : Call) next (node : Node), node.Regular →
      (engine.call depth call).Ends node fun _ after => Told engine ⟨depth, .call call next, node⟩ after.history)
    (program : Program) : Tallied engine depth program := by
  induction program with
  | done outcome =>
      intro node regular
      have nothing : ∀ dispatched, dispatched ∈ [] ↔ Point.Makes engine ⟨depth, .done outcome, node⟩ dispatched :=
        fun dispatched => ⟨nofun, fun makes => absurd makes Point.not_makes_done⟩
      cases outcome <;> exact ⟨[], .nil _, nothing⟩
  | panic message =>
      intro node regular
      refine ⟨[], .nil _, fun dispatched => ⟨nofun, fun makes => ?_⟩⟩
      have stopped : (Program.panic message).step engine (engine.call depth) node =
          (.error (.panic message), node) := rfl
      rw [Point.makes_iff_of_error stopped] at makes
      rcases makes with dispatches | ⟨frame, start, opens, -⟩
      · cases dispatches
      · cases opens
  | note told next ih =>
      refine .of_step rfl (fun running => running.mark _ trivial) (fun node regular => ?_) fun _ => ih
      have silent : (Mark.noted told).Silent := trivial
      exact .of_tells (.entry (silent.uneventful _)) nofun nofun
  | store query next ih =>
      have within : query.Within fun _ => True := Deed.within_of_all (fun _ => trivial) (.store query)
      refine .of_step rfl (fun running => running.ask query within) (fun node regular => ?_) ih
      refine ends_ask_told.imp fun result after course => .of_tells ?_ nofun nofun
      -- A body may remove records too, but what it removes is not removed by a dispatch.
      have asked : ∀ {astray}, Tells node.history (.stored query astray :: node.history) [] :=
        .entry (uneventful_stored (.inl regular.outside))
      rcases course with ⟨-, history⟩ | ⟨-, told, history, silent⟩
      · exact history ▸ asked
      · exact history ▸ asked.trans (tells_of_silent silent _)
  | look key next ih =>
      have parts : (Program.look key next).step engine (engine.call depth) =
          (do return (← get).guards.view key.text) >>= fun view => return next view := rfl
      refine .of_step parts (fun running => running.look key) (fun node regular => ?_) ih
      exact .of_tells (.nil _) nofun nofun
  | policy kind action next ih =>
      have parts : (Program.policy kind action next).step engine (engine.call depth) =
          pure (engine.policy? kind action) >>= fun flags => return next flags := rfl
      refine .of_step parts (fun running => running.pure _) (fun node regular => ?_) ih
      exact .of_tells (.nil _) nofun nofun
  | call call next ih =>
      refine .of_step rfl (fun running => running.attempt (running.call_any built depth call))
        (fun node regular => ?_) ih
      rw [ends_attempt]
      exact calls call next node regular
  | depend change master slave scope next inner ih =>
      cases change with
      | add =>
          refine .of_step rfl (fun running => running.attempt (running.addDependency trivial trivial
            (running.run_any built depth scope))) (fun node regular => ?_) ih
          rw [ends_attempt]
          exact told_add built inner regular
      | remove =>
          refine .of_step rfl (fun running => running.attempt (running.removeDependency trivial trivial
            (running.run_any built depth scope))) (fun node regular => ?_) ih
          rw [ends_attempt]
          exact told_remove built inner regular

/-- The history of a body tells of just the dispatches that are made in it. -/
theorem tallied (depth : Nat) (program : Program) : Tallied engine depth program := by
  -- A handler runs one level further down than the call that it is dispatched for, whatever program it is.
  induction depth generalizing program with
  | zero =>
      refine tallied_of_calls built (fun call next node regular => ?_) program
      exact .of_tells (.nil _) nofun nofun
  | succ depth ih => exact tallied_of_calls built (fun call next node regular => told_call built ih regular) program

end Steps

end Provision
