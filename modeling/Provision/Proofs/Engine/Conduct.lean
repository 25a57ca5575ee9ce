import Provision.Engine.Dispatch
import Provision.Proofs.Run.Ends

/-! # Programs that keep to what they may do

A program is run for someone: for a caller of the engine, or as the handler of an object. What it may
do of its own accord depends on who that is. A relation between nodes that the single deeds of
programs respect, and the engine's own operations if what runs in them does, is respected by every
program at every depth of nesting.
-/

namespace Provision

open Run

/-- For whom a program runs. -/
inductive Actor where
  /-- A caller of the engine, also in the scopes of its dependency operations. -/
  | caller
  /-- A handler of a kind, run for an object. -/
  | handler (kind : String) (object : ObjectKey)
  deriving DecidableEq

/-- What a program does of its own accord. -/
inductive Deed where
  | store (call : StoreCall)
  | call (call : Call)
  | depend (change : DependencyChange) (master slave : ObjectKey)
  deriving DecidableEq

/-- All that a program may come to do is allowed, whatever it is answered. -/
def Program.Confined (allowed : Deed → Prop) : Program → Prop
  | .done _ | .panic _ => True
  | .note _ next => next.Confined allowed
  | .store query next => allowed (.store query) ∧ ∀ answer, (next answer).Confined allowed
  | .look _ next => ∀ view, (next view).Confined allowed
  | .policy _ _ next => ∀ flags, (next flags).Confined allowed
  | .call request next => allowed (.call request) ∧ ∀ result, (next result).Confined allowed
  | .depend change master slave scope next =>
    allowed (.depend change master slave) ∧ scope.Confined allowed ∧
      ∀ outcome, (next outcome).Confined allowed

theorem Program.confined_of_all {allowed : Deed → Prop} (all : ∀ deed, allowed deed)
    (program : Program) : program.Confined allowed := by
  induction program with
  | done | panic => trivial
  | note told next ih => exact ih
  | store query next ih => exact ⟨all _, ih⟩
  | look key next ih => exact ih
  | policy kind action next ih => exact ih
  | call request next ih => exact ⟨all _, ih⟩
  | depend change master slave scope next inner ih => exact ⟨all _, inner, ih⟩

/-- The handlers of a resource do only what they are allowed for their object. -/
def Resource.Confined (allowed : Actor → Deed → Prop) (resource : Resource) : Prop :=
  ∀ name action, resource.action? name = some action → ∀ key payload,
    (action.handler key payload).Confined (allowed (.handler resource.name key))

theorem Resource.confined_of_all {allowed : Actor → Deed → Prop} (all : ∀ actor deed, allowed actor deed)
    (resource : Resource) : resource.Confined allowed :=
  fun _ _ _ _ _ => Program.confined_of_all (all _) _

/-- One thing done at the outermost level. -/
inductive Operation where
  /-- A program of a caller of the engine. -/
  | program (program : Program)
  /-- A call made to a resource directly. -/
  | direct (resource : Resource) (key : ObjectKey) (request : Request)

/-- An operation of known resources that does only what is allowed. -/
def Operation.Confined (known : Resource → Prop) (allowed : Actor → Deed → Prop) :
    Operation → Prop
  | .program body => body.Confined (allowed .caller)
  | .direct resource _ _ => known resource ∧ resource.Confined allowed

namespace Engine

/-- The node that an operation leaves. -/
def perform (engine : Engine) (depth : Nat) (node : Node) : Operation → Node
  | .program program => (engine.run depth program node).2
  | .direct resource key request => (resource.dispatch (engine.run depth) key request node).2

/-- The node that operations leave, each made when the one before it has ended. -/
def serve (engine : Engine) (depth : Nat) (node : Node) (operations : List Operation) : Node :=
  operations.foldl (engine.perform depth) node

@[simp] theorem serve_nil {engine : Engine} {depth : Nat} {node : Node} :
    engine.serve depth node [] = node := rfl

theorem mem_of_resource? {engine : Engine} {kind : String} {resource : Resource}
    (found : engine.resource? kind = some resource) :
    resource ∈ engine.resources ∧ resource.name = kind :=
  ⟨List.mem_of_find?_eq_some found, by simpa using List.find?_some found⟩

end Engine

/-- What the single deeds of a program have, and what the engine does if what runs in there has it, all
    that the program does has. -/
theorem Run.Composed.program_run {K : ∀ {ε α : Type}, Run ε α → Prop} (composed : Composed K)
    {engine : Engine} {nested : Call → Run EngineError Response} {allowed : Deed → Prop}
    (panics : ∀ message, K (panicking message : Run ActionError RawJson))
    (note : ∀ told, K (mark (.noted told) : Run ActionError Unit))
    (look : ∀ key : ObjectKey, K (return (← get).guards.view key.text : Run ActionError GuardView))
    (store : ∀ call, allowed (.store call) → K (ask call : Run ActionError _))
    (calls : ∀ call, allowed (.call call) → K (nested call))
    (add : ∀ master slave body, allowed (.depend .add master slave) → K body →
      K (engine.addDependency master slave body))
    (remove : ∀ master slave body, allowed (.depend .remove master slave) → K body →
      K (engine.removeDependency master slave body))
    {program : Program} (confined : program.Confined allowed) : K (program.run engine nested) := by
  induction program with
  | done outcome => exact composed.ofExcept outcome
  | panic message => exact panics message
  | note told next ih => exact composed.bind (note told) fun _ => ih confined
  | store call next ih =>
      obtain ⟨may, rest⟩ := confined
      exact composed.bind (store call may) fun answer => ih answer (rest answer)
  | look key next ih =>
      have parts : (Program.look key next).run engine nested =
          (do return (← get).guards.view key.text) >>= fun view => (next view).run engine nested := rfl
      rw [parts]
      exact composed.bind (look key) fun view => ih view (confined view)
  | policy kind action next ih => exact ih _ (confined _)
  | call call next ih =>
      obtain ⟨may, rest⟩ := confined
      exact composed.bind (composed.attempt (calls call may)) fun result => ih result (rest result)
  | depend change master slave scope next ihScope ihNext =>
      obtain ⟨may, inner, rest⟩ := confined
      refine composed.bind (composed.attempt ?_) fun outcome => ihNext outcome (rest outcome)
      cases change with
      | add => exact add master slave _ may (ihScope inner)
      | remove => exact remove master slave _ may (ihScope inner)

/-- A relation between the nodes before and after what is done for someone: it is respected by every
    deed that is allowed, and by what the engine does if it is respected by what runs in there. -/
structure Upheld (engine : Engine) (known : Resource → Prop) (allowed : Actor → Deed → Prop)
    (R : Actor → Node → Node → Prop) : Prop where
  refl : ∀ actor node, R actor node node
  trans : ∀ {actor} ⦃a b c⦄, R actor a b → R actor b c → R actor a c
  note : ∀ actor node told, R actor node (node.marked (.noted told))
  ask : ∀ actor call, allowed actor (.store call) → Keeps (R actor) (ask call : Run ActionError _)
  dispatch : ∀ actor resource run key request, known resource →
    (∀ action, resource.action? request.action = some action →
      Keeps (R (.handler resource.name key)) (run (action.handler key request.payload))) →
    Keeps (R actor) (resource.dispatch run key request)
  add : ∀ actor master slave body, allowed actor (.depend .add master slave) →
    Keeps (R actor) body → Keeps (R actor) (engine.addDependency master slave body)
  remove : ∀ actor master slave body, allowed actor (.depend .remove master slave) →
    Keeps (R actor) body → Keeps (R actor) (engine.removeDependency master slave body)

namespace Upheld

variable {engine : Engine} {known : Resource → Prop} {allowed : Actor → Deed → Prop}
  {R : Actor → Node → Node → Prop} (upheld : Upheld engine known allowed R)

include upheld

/-- A program respects the relation if the calls in it do. -/
theorem program_run (actor : Actor) {nested : Call → Run EngineError Response}
    (calls : ∀ call, allowed actor (.call call) → Keeps (R actor) (nested call)) {program : Program}
    (confined : program.Confined (allowed actor)) : Keeps (R actor) (program.run engine nested) := by
  have composed : Composed fun body => Keeps (R actor) body :=
    Keeps.composed (upheld.refl actor) upheld.trans
  exact composed.program_run (fun _ => Keeps.throw (upheld.refl actor) _)
    (fun told node => upheld.note actor node told)
    (fun _ node => upheld.refl actor node) (upheld.ask actor) calls (upheld.add actor)
    (upheld.remove actor) confined

variable (registered : ∀ resource ∈ engine.resources, known resource)
  (confined : ∀ resource ∈ engine.resources, resource.Confined allowed)

include registered confined

/-- Calls respect the relation at every depth of nesting. -/
theorem call (depth : Nat) (actor : Actor) (call : Call) :
    Keeps (R actor) (engine.call depth call) := by
  induction depth generalizing actor call with
  | zero => exact Keeps.throw (upheld.refl actor) _
  | succ depth ih =>
      simp only [Engine.call]
      cases found : engine.resource? call.kind with
      | none => exact Keeps.throw (upheld.refl actor) _
      | some resource =>
          obtain ⟨member, -⟩ := Engine.mem_of_resource? found
          refine upheld.dispatch actor resource _ _ _ (registered resource member) ?_
          intro action described
          exact upheld.program_run _ (fun inner _ => ih _ inner)
            (confined resource member call.request.action action described _ _)

theorem run (depth : Nat) {actor : Actor} {program : Program}
    (may : program.Confined (allowed actor)) : Keeps (R actor) (engine.run depth program) :=
  upheld.program_run actor (fun call _ => upheld.call registered confined depth actor call) may

theorem perform (depth : Nat) (node : Node) {operation : Operation}
    (may : operation.Confined known allowed) :
    R .caller node (engine.perform depth node operation) := by
  cases operation with
  | program program => exact upheld.run registered confined depth may node
  | direct resource key request =>
      obtain ⟨knows, own⟩ := may
      refine upheld.dispatch .caller resource _ key request knows ?_ node
      intro action described
      exact upheld.run registered confined depth (own request.action action described key _)

/-- A whole run respects the relation. -/
theorem serve (depth : Nat) (node : Node) {operations : List Operation}
    (may : ∀ operation ∈ operations, operation.Confined known allowed) :
    R .caller node (engine.serve depth node operations) := by
  induction operations generalizing node with
  | nil => exact upheld.refl .caller node
  | cons operation operations ih =>
      have first := upheld.perform registered confined depth node (may operation List.mem_cons_self)
      exact upheld.trans first (ih _ fun other member => may other (List.mem_cons_of_mem _ member))

end Upheld

end Provision
