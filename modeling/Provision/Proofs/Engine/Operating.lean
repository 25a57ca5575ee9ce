import Provision.Proofs.Engine.Assembly
import Provision.Proofs.Engine.Framing
import Provision.Proofs.Run.Passage

/-! # What the operations of the engine are made of

The operations of the engine ask the store about objects, report, and hold the locks of objects around
what runs in them. Which objects these are is told by whoever asks for an operation. So a property of runs
that questions about known objects and their locks do not spoil is a property of every call, if handlers
keep to known objects.
-/

namespace Provision

/-- All objects that a program names in a deed are known. -/
def Deed.Within (known : ObjectKey → Prop) : Deed → Prop
  | .store query => query.Within known
  | .call request => known request.key
  | .depend _ master slave => known master ∧ known slave

theorem Deed.within_of_all {known : ObjectKey → Prop} (all : ∀ key, known key) (deed : Deed) :
    deed.Within known := by
  cases deed with
  | store query => cases query <;> simp [Within, StoreCall.Within, all]
  | call request => exact all request.key
  | depend change master slave => exact ⟨all master, all slave⟩

namespace Run

open Node

variable {known : ObjectKey → Prop} {K : ∀ {ε α : Type}, Run ε α → Prop}
  {resource : Resource} {engine : Engine} {key master slave : ObjectKey}

/-- A property of runs of the engine that orders about known objects and reports have. -/
structure Demands (known : ObjectKey → Prop) (K : ∀ {α : Type}, Run EngineError α → Prop) : Prop
    extends Chained K where
  fail : ∀ {α : Type} (error : EngineError), K (fail error : Run EngineError α)
  report : ∀ event : Event, K (report event)
  demand : ∀ call : StoreCall, call.Within known → K (demand call)

namespace Demands

variable {K : ∀ {α : Type}, Run EngineError α → Prop} (demands : Demands known K)

include demands

theorem checkTarget {name : String} {flags : ActionFlags} (may : known key) :
    K (resource.checkTarget name flags key) := by
  refine demands.bind (demands.demand (.has key) may) fun present => ?_
  split
  · exact demands.bind (demands.report _) fun _ => demands.fail _
  split
  · exact demands.bind (demands.report _) fun _ => demands.fail _
  extract_lets finish
  have unused : K (finish ()) := by
    simp only [finish]
    split
    · refine demands.bind (demands.demand (.masters key) may) fun masters => ?_
      split
      · exact demands.bind (demands.report _) fun _ => demands.fail _
      · exact demands.pure ()
    · exact demands.pure ()
  split
  · refine demands.bind (demands.demand (.get key) may) fun record => ?_
    split
    · exact demands.bind (demands.report _) fun _ => demands.fail _
    · exact unused
  · exact unused

theorem afterSuccess {name : String} {output : RawJson} (may : known key) :
    K (Resource.afterSuccess name key output) := by
  rw [Resource.afterSuccess]
  split
  · exact demands.bind (demands.demand (.remove key) may) fun _ =>
      demands.bind (demands.report _) fun _ => demands.pure _
  · exact demands.pure _

theorem afterFailure {flags : ActionFlags} {error : ActionError} (may : known key) :
    K (Resource.afterFailure flags key error) := by
  refine demands.bind (demands.report _) fun _ => ?_
  split
  · refine demands.bind (demands.demand (.has key) may) fun present => ?_
    split
    · refine demands.bind (demands.demand (.release key) may) fun released => ?_
      split
      · exact demands.bind (demands.report _) fun _ => demands.pure _
      · exact demands.pure _
    · exact demands.pure _
  · exact demands.pure _

variable (searched : K (dependsOn slave master)) (mayMaster : known master) (maySlave : known slave)

include searched mayMaster maySlave

theorem reserve : K (reserve resource master slave) := by
  refine demands.bind searched fun found => ?_
  split
  · exact demands.fail _
  refine demands.bind (demands.demand (.masters slave) maySlave) fun masters => ?_
  split
  · exact demands.pure false
  split
  · exact demands.bind (demands.report _) fun _ => demands.fail _
  · exact demands.bind (demands.demand (.link master slave) ⟨mayMaster, maySlave⟩) fun _ => demands.pure true

theorem checkAndReserve : K (Engine.checkAndReserve resource master slave) := by
  refine demands.bind (demands.demand (.has slave) maySlave) fun present => ?_
  split
  · exact demands.reserve searched mayMaster maySlave
  · exact demands.fail _

end Demands

/-- A property of runs that questions about known objects and reports have. -/
structure Consulting (known : ObjectKey → Prop) (K : ∀ {ε α : Type}, Run ε α → Prop) : Prop
    extends Composed K where
  mapError : ∀ {ε ε' α : Type} {body : Run ε α} (f : ε → ε'), K body → K (body.mapError f)
  mark : ∀ {ε : Type} (entry : Mark), entry.Spoken → K (mark entry : Run ε Unit)
  ask : ∀ {ε : Type} (call : StoreCall), call.Within known →
    K (ask call : Run ε (Except StoreError call.Answer))

namespace Consulting

variable (consulting : Consulting known K)

include consulting

theorem report {ε : Type} (event : Event) : K (report event : Run ε Unit) := consulting.mark _ trivial

theorem demands : Demands known fun body => K body where
  pure := consulting.pure
  fail := consulting.fail
  bind := consulting.bind
  report := consulting.report
  demand call within := by
    refine consulting.bind (consulting.ask call within) fun reply => ?_
    cases reply with
    | ok answer => exact consulting.pure answer
    | error cause => exact consulting.fail _

theorem withdraw {ε : Type} {recorded : Bool} (mayMaster : known master) (maySlave : known slave) :
    K (withdraw recorded master slave : Run ε Unit) := by
  rw [Provision.withdraw]
  split
  · refine consulting.bind (consulting.ask (.unlink master slave) ⟨mayMaster, maySlave⟩) fun reply => ?_
    cases reply with
    | ok => exact consulting.pure ()
    | error cause => exact consulting.report _
  · exact consulting.pure ()

theorem resourceOf (may : known key) : K (engine.resourceOf key) := by
  refine consulting.bind (consulting.ask (.get key) may) fun reply => ?_
  cases reply with
  | ok record =>
      dsimp only
      split
      · exact consulting.pure _
      · exact consulting.fail _
  | error cause => cases cause <;> exact consulting.fail _

theorem resolve (may : known slave) : K (engine.resolve master slave) := by
  rw [Engine.resolve]
  split
  · exact consulting.fail _
  · exact consulting.mapError _ (consulting.resourceOf may)

end Consulting

/-- A property that the search of the ledger has too. -/
structure Asking (known : ObjectKey → Prop) (K : ∀ {ε α : Type}, Run ε α → Prop) : Prop
    extends Consulting known K where
  dependsOn : ∀ {dependent target : ObjectKey}, known target → K (dependsOn dependent target)

theorem Asking.checkAndReserve (asking : Asking known K) (mayMaster : known master) (maySlave : known slave) :
    K (Engine.checkAndReserve resource master slave) :=
  asking.demands.checkAndReserve (asking.dependsOn mayMaster) mayMaster maySlave

/-- A property of runs that frames and the locks of known objects do not spoil either. -/
structure Holding (known : ObjectKey → Prop) (K : ∀ {ε α : Type}, Run ε α → Prop) : Prop
    extends Consulting known K where
  within : ∀ {ε α : Type} (frame : Frame) {body : Run ε α}, K body → K (within frame body)
  guarded : ∀ {ε α : Type} {key : ObjectKey} {mode : LockMode} {body : Run ε α}, known key → K body →
    K (guarded .shared key mode body)

theorem Holding.dispatch (holding : Holding known K) {run : Program → Run ActionError RawJson} {request : Request}
    (shared : resource.guards = .shared) (may : known key)
    (handled : ∀ action, resource.action? request.action = some action →
      K (run (action.handler key request.payload))) : K (resource.dispatch run key request) := by
  rw [Resource.dispatch_eq]
  split
  next => exact holding.fail _
  next action described =>
    rw [shared]
    refine holding.within _ (holding.guarded may ?_)
    refine holding.bind (holding.demands.checkTarget may) fun _ => ?_
    refine holding.bind (holding.attempt (holding.within _ (handled action described))) fun outcome => ?_
    cases outcome with
    | ok output => exact holding.demands.afterSuccess may
    | error error => exact holding.demands.afterFailure may

/-- What all operations of the engine have if what runs in them has it. -/
structure Operating (known : ObjectKey → Prop) (K : ∀ {ε α : Type}, Run ε α → Prop) : Prop
    extends Asking known K, Holding known K

namespace Operating

variable (operating : Operating known K)

include operating

theorem addDependency {scope : Run ActionError RawJson} (mayMaster : known master)
    (maySlave : known slave) (body : K scope) : K (engine.addDependency master slave scope) := by
  refine operating.bind (operating.resolve maySlave) fun resource => ?_
  refine operating.within _ (operating.guarded maySlave ?_)
  exact Engine.composed_holdReservation operating.toComposed
    (operating.mapError _ (operating.checkAndReserve mayMaster maySlave)) (operating.within _ body)
    (fun _ => operating.withdraw mayMaster maySlave) operating.report

theorem removeDependency {scope : Run ActionError RawJson} (mayMaster : known master)
    (maySlave : known slave) (body : K scope) : K (engine.removeDependency master slave scope) := by
  refine operating.bind (operating.mapError _ (operating.resourceOf maySlave)) fun _ => ?_
  refine operating.within _ (operating.guarded maySlave ?_)
  exact Engine.composed_holdRelease operating.toComposed (operating.within _ body)
    (operating.mapError _ (operating.demands.demand (.unlink master slave) ⟨mayMaster, maySlave⟩)) operating.report

end Operating

/-- A property of runs that no way to come to a halt spoils, and neither does looking at a lock. -/
structure Serving (known : ObjectKey → Prop) (K : ∀ {ε α : Type}, Run ε α → Prop) : Prop
    extends Holding known K where
  panicking : ∀ {ε α : Type} (message : String), K (panicking message : Run ε α)
  tooDeep : ∀ {ε α : Type}, K (throw .tooDeep : Run ε α)
  look : ∀ {ε : Type} (key : ObjectKey), K (return (← get).guards.view key.text : Run ε GuardView)

/-- A property of runs that calls and programs have if handlers keep to known objects. -/
structure Running (known : ObjectKey → Prop) (K : ∀ {ε α : Type}, Run ε α → Prop) : Prop
    extends Operating known K, Serving known K

namespace Running

variable (running : Running known K)

include running

section Program

variable {nested : Call → Run EngineError Response} (calls : ∀ call : Call, known call.key → K (nested call))
  {program : Program} (confined : program.Confined (Deed.Within known))

include calls confined

theorem program_run : K (program.run engine nested) :=
  running.toComposed.program_run running.panicking (fun _ => running.mark _ trivial) running.look running.ask
    calls (fun _ _ _ may => running.addDependency may.1 may.2)
    (fun _ _ _ may => running.removeDependency may.1 may.2) confined

theorem program_step : K (program.step engine nested) :=
  running.toComposed.program_step running.panicking (fun _ => running.mark _ trivial) running.look running.ask
    calls (fun _ _ _ may => running.addDependency may.1 may.2)
    (fun _ _ _ may => running.removeDependency may.1 may.2) (running.program_run calls) confined

end Program

/-- A call has the property if all handlers keep to known objects when they run for one. -/
theorem call (built : engine.Built)
    (confined : ∀ resource ∈ engine.resources, ∀ name action, resource.action? name = some action →
      ∀ key payload, known key → (action.handler key payload).Confined (Deed.Within known))
    (depth : Nat) (call : Call) (may : known call.key) : K (engine.call depth call) := by
  induction depth generalizing call with
  | zero => exact running.tooDeep
  | succ depth ih =>
      rw [Engine.call]
      split
      next => exact running.fail _
      next resource registered =>
        have member := (Engine.mem_of_resource? registered).1
        refine running.dispatch (built.guards member) may fun action described => ?_
        exact running.program_run ih (confined resource member call.request.action action described _ _ may)

end Running

end Run

/-! ## Relations between the nodes before and after -/

section Keeps

open Run Node

variable {known : ObjectKey → Prop} {frames : Frame → Prop} {R : Node → Node → Prop}
  (ordered : ∀ {node after call}, call.Within known → Performed call node after → R node after)

include ordered

theorem Framing.asking (framing : Framing frames R) : Asking known fun body => Keeps R body where
  toComposed := Keeps.composed framing.refl framing.trans
  mapError f keeps := keeps.mapError f
  mark _ spoken _ := framing.consulted (.marked spoken.idle)
  ask _ within _ := ends_ask (fun _ _ _ => framing.consulted) fun _ => ordered within
  dependsOn _ node := (asks_dependsOn node).imp fun _ _ => framing.consulted

theorem Lockless.running (lockless : Lockless (fun _ => True) R) : Running known fun body => Keeps R body where
  toAsking := lockless.toFraming.asking ordered
  within _ _ keeps _ := lockless.within trivial (keeps _)
  guarded _ keeps _ := lockless.guarded fun _ _ _ => keeps _
  panicking _ := Keeps.throw lockless.refl _
  tooDeep := Keeps.throw lockless.refl _
  look _ node := lockless.refl node

end Keeps

end Provision
