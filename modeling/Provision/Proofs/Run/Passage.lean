import Provision.Proofs.Engine.Conduct
import Provision.Proofs.Engine.Dispatch

/-! # The points that a run passes

A body, which is a handler or a scope, is run step by step. At each of its points there is a rest of
it that is still to be run, on a node. A step may open another body, the handler of a call or the
scope of a dependency operation, whose points are passed before the step is done. So the points of a
run are those of all the bodies in it, each inside the frames of the operations that led to it.
-/

namespace Provision

open Run Node

namespace Program

/-- Does the first step of a program and gives the rest of it. A program that has ended stays where it
    is. -/
def step (engine : Engine) (nested : Call → Run EngineError Response) :
    Program → Run ActionError Program
  | .done outcome => do
    let output ← ofExcept outcome
    return .done (.ok output)
  | .panic message => panicking message
  | .note told next => do
    mark (.noted told)
    return next
  | .store query next => do
    let answer ← ask query
    return next answer
  | .look key next => do
    let node ← get
    return next (node.guards.view key.text)
  | .policy kind action next => return next (engine.policy? kind action)
  | .call request next => do
    let result ← attempt (nested request)
    return next result
  | .depend change master slave scope next => do
    let body := scope.run engine nested
    let outcome ← attempt <|
      match change with
      | .add => engine.addDependency master slave body
      | .remove => engine.removeDependency master slave body
    return next outcome

/-- To run a program is to do its first step and to run the rest. -/
theorem run_eq_step_bind (engine : Engine) (nested : Call → Run EngineError Response)
    (program : Program) :
    program.run engine nested = program.step engine nested >>= fun rest => rest.run engine nested := by
  cases program with
  | done outcome => cases outcome <;> rfl
  | panic message => rfl
  | note | store | look | policy | call => simp [run, step]
  | depend change master slave scope next => cases change <;> simp [run, step]

end Program

theorem Program.Confined.step {engine : Engine} {nested : Call → Run EngineError Response}
    {allowed : Deed → Prop} {program rest : Program} {node after : Node} (confined : program.Confined allowed)
    (steps : program.step engine nested node = (.ok rest, after)) : rest.Confined allowed := by
  cases program with
  | done outcome =>
      obtain ⟨output, mid, -, same⟩ := bind_eq_ok steps
      cases same
      trivial
  | panic => cases steps
  | note | look | policy =>
      cases steps
      first | exact confined | exact confined _
  | store query next =>
      obtain ⟨answer, mid, -, same⟩ := bind_eq_ok steps
      cases same
      exact confined.2 answer
  | call request next =>
      obtain ⟨result, mid, -, same⟩ := bind_eq_ok steps
      cases same
      exact confined.2 result
  | depend change master slave scope next =>
      obtain ⟨outcome, mid, -, same⟩ := bind_eq_ok steps
      cases same
      exact confined.2.2 outcome

/-- What a whole program has by what it may do, its first step has too. -/
theorem Run.Composed.program_step {K : ∀ {ε α : Type}, Run ε α → Prop} (composed : Composed K)
    {engine : Engine} {nested : Call → Run EngineError Response} {allowed : Deed → Prop}
    (panics : ∀ message, K (panicking message : Run ActionError Program))
    (note : ∀ told, K (mark (.noted told) : Run ActionError Unit))
    (look : ∀ key : ObjectKey, K (return (← get).guards.view key.text : Run ActionError GuardView))
    (store : ∀ call, allowed (.store call) → K (ask call : Run ActionError _))
    (calls : ∀ call, allowed (.call call) → K (nested call))
    (add : ∀ master slave body, allowed (.depend .add master slave) → K body →
      K (engine.addDependency master slave body))
    (remove : ∀ master slave body, allowed (.depend .remove master slave) → K body →
      K (engine.removeDependency master slave body))
    (scopes : ∀ {scope : Program}, scope.Confined allowed → K (scope.run engine nested))
    {program : Program} (confined : program.Confined allowed) : K (program.step engine nested) := by
  cases program with
  | done outcome => exact composed.bind (composed.ofExcept outcome) fun _ => composed.pure _
  | panic message => exact panics message
  | note told next => exact composed.bind (note told) fun _ => composed.pure next
  | store query next => exact composed.bind (store query confined.1) fun _ => composed.pure _
  | look key next =>
      have parts : (Program.look key next).step engine nested =
          (do return (← get).guards.view key.text) >>= fun view => return next view := rfl
      rw [parts]
      exact composed.bind (look key) fun _ => composed.pure _
  | policy kind action next => exact composed.pure _
  | call request next =>
      exact composed.bind (composed.attempt (calls request confined.1)) fun _ => composed.pure _
  | depend change master slave scope next =>
      obtain ⟨may, inner, -⟩ := confined
      refine composed.bind (composed.attempt ?_) fun _ => composed.pure _
      cases change with
      | add => exact add master slave _ may (scopes inner)
      | remove => exact remove master slave _ may (scopes inner)

/-- A point of a run: the rest of a body, with the depth to which calls may still be nested in it, and
    the node. -/
structure Point where
  depth : Nat
  rest : Program
  node : Node

namespace Point

variable {engine : Engine}

/-- At a point another body is opened inside a frame: its checks are passed and its lock is taken. -/
inductive Opens (engine : Engine) : Point → Frame → Point → Prop where
  | handler {depth : Nat} {call : Call} {next : Except EngineError Response → Program} {node mid : Node}
      {resource : Resource} {action : Action} {hold : Hold} {held : GuardTable}
      (registered : engine.resource? call.kind = some resource)
      (described : resource.action? call.request.action = some action)
      (taken : (node.table resource.guards).take? call.key.text action.flags.mode = some (hold, held))
      (passed : resource.checkTarget call.request.action action.flags call.key
        ((node.marked (.began (.dispatch ⟨resource.name, call.request.action, call.key⟩
          action.flags.mode))).withTable resource.guards held) = (.ok (), mid)) :
      Opens engine ⟨depth + 1, .call call next, node⟩
        (.dispatch ⟨resource.name, call.request.action, call.key⟩ action.flags.mode)
        ⟨depth, action.handler call.key call.request.payload,
          mid.marked (.began (resource.handlerFrame call.key call.request action))⟩
  | reservation {depth : Nat} {master slave : ObjectKey} {scope : Program} {next : Outcome → Program}
      {node looked mid : Node} {resource : Resource} {hold : Hold} {held : GuardTable} {recorded : Bool}
      (resolved : engine.resolve master slave node = (.ok resource, looked))
      (taken : looked.guards.take? slave.text .shared = some (hold, held))
      (checked : Engine.checkAndReserve resource master slave
        ((looked.marked (.began (.dependency .add slave))).withTable .shared held) =
          (.ok recorded, mid)) :
      Opens engine ⟨depth, .depend .add master slave scope next, node⟩ (.dependency .add slave)
        ⟨depth, scope, mid.marked (.began (.scope .add slave))⟩
  | release {depth : Nat} {master slave : ObjectKey} {scope : Program} {next : Outcome → Program}
      {node looked : Node} {resource : Resource} {hold : Hold} {held : GuardTable}
      (found : engine.resourceOf slave node = (.ok resource, looked))
      (taken : looked.guards.take? slave.text .shared = some (hold, held)) :
      Opens engine ⟨depth, .depend .remove master slave scope next, node⟩ (.dependency .remove slave)
        ⟨depth, scope, ((looked.marked (.began (.dependency .remove slave))).withTable .shared
          held).marked (.began (.scope .remove slave))⟩

/-- A run passes from one point to another, inside the frames that it has opened and not closed
    meanwhile, innermost first. -/
inductive Passes (engine : Engine) : Point → List Frame → Point → Prop where
  | here (point : Point) : Passes engine point [] point
  | inside {point start moment : Point} {frame : Frame} {frames : List Frame}
      (opens : Opens engine point frame start) (passes : Passes engine start frames moment) :
      Passes engine point (frames ++ [frame]) moment
  | onward {point moment : Point} {rest : Program} {after : Node} {frames : List Frame}
      (steps : point.rest.step engine (engine.call point.depth) point.node = (.ok rest, after))
      (passes : Passes engine ⟨point.depth, rest, after⟩ frames moment) :
      Passes engine point frames moment

namespace Passes

variable {depth : Nat} {program : Program} {node after : Node} {output : RawJson}

theorem of_first {α : Type} {first : Run ActionError α} {next : α → Program}
    (steps : program.step engine (engine.call depth) = (first >>= fun a => pure (next a)))
    (rest : ∀ a {mid}, engine.run depth (next a) mid = (.ok output, after) →
      Passes engine ⟨depth, next a, mid⟩ [] ⟨depth, .done (.ok output), after⟩)
    (ran : engine.run depth program node = (.ok output, after)) :
    Passes engine ⟨depth, program, node⟩ [] ⟨depth, .done (.ok output), after⟩ := by
  rw [Engine.run, Program.run_eq_step_bind, steps, bind_assoc] at ran
  obtain ⟨a, mid, begins, goes⟩ := bind_eq_ok ran
  refine .onward ?_ (rest a goes)
  rw [steps]
  exact bind_of_ok begins

/-- A run that ends with a value gets to the end of its body. -/
theorem of_run (ran : engine.run depth program node = (.ok output, after)) :
    Passes engine ⟨depth, program, node⟩ [] ⟨depth, .done (.ok output), after⟩ := by
  induction program generalizing node with
  | done outcome =>
      cases outcome with
      | ok output =>
          cases ran
          exact .here _
      | error error => cases ran
  | panic message => cases ran
  | note told next ih => exact of_first rfl (fun _ _ => ih) ran
  | store query next ih => exact of_first rfl (fun answer _ => ih answer) ran
  | look key next ih => exact of_first rfl (fun _ _ => ih _) ran
  | policy kind action next ih => exact .onward rfl (ih _ ran)
  | call request next ih => exact of_first rfl (fun result _ => ih result) ran
  | depend change master slave scope next _ ih => exact of_first rfl (fun outcome _ => ih outcome) ran

end Passes

end Point

end Provision
