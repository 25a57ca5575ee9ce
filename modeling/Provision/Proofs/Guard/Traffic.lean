import Mathlib.Algebra.BigOperators.Group.Finset.Basic
import Provision.Proofs.Guard.Accounts
import Provision.Proofs.Guard.Apart

/-! # Callers beside each other

Any number of callers dispatch an action each, whose handler reserves one object after the other. Each goes
through stages of its own, and between two stages anything may happen at the others. A step is what the
engine does between two moments at which a lock is taken or given back; a caller that nobody else is beside of
comes through its stages to just what the call gives.

A lock is assumed to be granted for reading whenever no writer holds it. With parking_lot's task-fair `read()`
a caller may also wait behind another one that waits to write, which is no step here.
-/

namespace Provision

open Run Node Relation

/-- What a handler does that reserves, one after the other, objects other than its own, each around a scope
    that does nothing. It may take the outcome of each into account. -/
inductive Reservations (key : ObjectKey) where
  | done (outcome : Outcome)
  | reserve (name : String) (other : name ≠ key.object) (next : Outcome → Reservations key)

def Reservations.program {key : ObjectKey} : Reservations key → Program
  | .done outcome => .done outcome
  | .reserve name _ next =>
    .depend .add key (key.sibling name) (.done (.ok .null)) fun outcome => (next outcome).program

/-- A call whose handler makes reservations for its object and does nothing else. -/
structure Caller (engine : Engine) where
  call : Call
  resource : Resource
  action : Action
  plan : Reservations call.key
  registered : engine.resource? call.kind = some resource
  shared : resource.guards = .shared
  described : resource.action? call.request.action = some action
  handles : action.handler call.key call.request.payload = plan.program

/-- How far a caller has come. The locks that it holds are named by their identities. -/
inductive Stage (key : ObjectKey) where
  /-- It is to take the lock of its object. -/
  | ready
  /-- It is to make the checks in front of the handler. -/
  | opened (lock : Nat)
  | handling (lock : Nat) (plan : Reservations key)
  /-- It is to take the lock of an object whose resource it has looked up. -/
  | seeking (lock : Nat) (resource : Resource) (name : String) (other : name ≠ key.object)
    (next : Outcome → Reservations key)
  /-- It is to check and record the edge. -/
  | reserving (lock : Nat) (resource : Resource) (name : String) (inner : Nat)
    (next : Outcome → Reservations key)
  /-- It is to give back the lock of the object. -/
  | reserved (lock : Nat) (name : String) (inner : Nat) (result : Except (Halt ActionError) RawJson)
    (next : Outcome → Reservations key)
  /-- It is to give back the lock of its own object. -/
  | leaving (lock : Nat) (result : Except (Halt EngineError) Response)
  | finished (result : Except (Halt EngineError) Response)

namespace Stage

variable {key : ObjectKey}

/-- The lock that is to be taken next, if it is a lock. -/
def wants (mode : LockMode) : Stage key → Option (String × LockMode)
  | ready => some (key.text, mode)
  | seeking _ _ name _ _ => some ((key.sibling name).text, .shared)
  | opened _ | handling _ _ | reserving _ _ _ _ _ | reserved _ _ _ _ _ | leaving _ _ | finished _ => none

/-- The locks that are held, with the ids that they are held for. -/
def locks (mode : LockMode) : Stage key → Multiset (String × Hold)
  | ready | finished _ => 0
  | opened lock | handling lock _ | seeking lock _ _ _ _ | leaving lock _ => {(key.text, ⟨lock, mode⟩)}
  | reserving lock _ name inner _ | reserved lock name inner _ _ =>
    {((key.sibling name).text, ⟨inner, .shared⟩), (key.text, ⟨lock, mode⟩)}

/-- Whether the caller has come to its end. -/
def isFinished : Stage key → Bool
  | finished _ => true
  | _ => false

/-- The object whose lock is to be taken in the handler. -/
def sought : Stage key → Option ObjectKey
  | seeking _ _ name _ _ => some (key.sibling name)
  | _ => none

end Stage

namespace Node

/-- Begins a frame and takes the lock of its object, if the lock can be had. -/
def enter? (node : Node) (frame : Frame) : Option (Nat × Node) :=
  (node.guards.take? frame.object.text frame.mode).map fun (hold, held) =>
    (hold.lock, (node.marked (.began frame)).withTable .shared held)

/-- Gives back the lock of a frame and ends the frame, with the result that there is. -/
def leave {ε α : Type} (node : Node) (frame : Frame) (lock : Nat) (result : Except (Halt ε) α) :
    Except (Halt ε) α × Node :=
  match node.guards.leave? frame.object.text ⟨lock, frame.mode⟩ with
  | some left => (result, (node.withTable .shared left).marked (.ended frame))
  | none => (.error (.panic (GuardTable.invalidExit frame.object.text)), node.marked (.ended frame))

end Node

namespace Caller

variable {engine : Engine} (caller : Caller engine)

abbrev key : ObjectKey := caller.call.key

abbrev mode : LockMode := caller.action.flags.mode

/-- The frame of the dispatch. -/
def frame : Frame := caller.resource.dispatchFrame caller.key caller.call.request caller.action

/-- What is left of a dispatch in whose handler a program is still to be run. -/
def conclude (body : Run ActionError RawJson) : Run EngineError Response := do
  let frame := caller.resource.handlerFrame caller.key caller.call.request caller.action
  match ← attempt (ensuring body (·.marked (.ended frame))) with
  | .ok output => Resource.afterSuccess caller.call.request.action caller.key output
  | .error error => Resource.afterFailure caller.action.flags caller.key error

/-- Ends the handler. -/
def finish (lock : Nat) (body : Run ActionError RawJson) (node : Node) : Stage caller.key × Node :=
  match caller.conclude body node with
  | (result, node) => (.leaving lock result, node)

/-- Goes on in the handler with the result of a reservation. What is not an outcome ends the handler. -/
def resume (lock : Nat) (next : Outcome → Reservations caller.key)
    (result : Except (Halt ActionError) RawJson) (node : Node) : Stage caller.key × Node :=
  match (caught result : Except (Halt ActionError) Outcome) with
  | .ok outcome => (.handling lock (next outcome), node)
  | .error halt => caller.finish lock (throw halt) node

/-- The next step of the caller. There is none if it waits for a lock or has come to its end. -/
def advance (node : Node) : Stage caller.key → Option (Stage caller.key × Node)
  | .ready => (node.enter? caller.frame).map fun (lock, node) => (.opened lock, node)
  | .opened lock => some <|
    match caller.resource.checkTarget caller.call.request.action caller.action.flags caller.key node with
    | (.ok (), node) =>
      let frame := caller.resource.handlerFrame caller.key caller.call.request caller.action
      (.handling lock caller.plan, node.marked (.began frame))
    | (.error halt, node) => (.leaving lock (.error halt), node)
  | .handling lock (.done outcome) => some (caller.finish lock (Run.ofExcept outcome) node)
  | .handling lock (.reserve name other next) => some <|
    match engine.resolve caller.key (caller.key.sibling name) node with
    | (.ok resource, node) => (.seeking lock resource name other next, node)
    | (.error halt, node) => caller.resume lock next (.error halt) node
  | .seeking lock resource name _ next =>
    (node.enter? (.dependency .add (caller.key.sibling name))).map fun (inner, node) =>
      (.reserving lock resource name inner next, node)
  | .reserving lock resource name inner next => some <|
    match Engine.holdReservation resource caller.key (caller.key.sibling name) (pure .null) node with
    | (result, node) => (.reserved lock name inner result next, node)
  | .reserved lock name inner result next => some <|
    match node.leave (.dependency .add (caller.key.sibling name)) inner result with
    | (result, node) => caller.resume lock next result node
  | .leaving lock result => some <|
    match node.leave caller.frame lock result with
    | (result, node) => (.finished result, node)
  | .finished _ => none

/-- The caller comes from one stage, on a node, to another. -/
def Comes : Stage caller.key × Node → Stage caller.key × Node → Prop :=
  ReflTransGen fun here there => caller.advance here.2 here.1 = some there

end Caller

/-! ## A caller by itself -/

theorem ObjectKey.sibling_text_ne {key : ObjectKey} {name : String} (other : name ≠ key.object) :
    key.text ≠ (key.sibling name).text := by
  rw [Ne, text_eq_text_iff, or_iff_left not_overlaps_sibling]
  intro same
  exact other (congrArg ObjectKey.object same).symm

/-- A run in a frame that holds the lock of its object, once the lock is taken. -/
theorem Node.within_guarded {ε α : Type} {node start : Node} {frame : Frame} {lock : Nat}
    (entered : node.enter? frame = some (lock, start)) (body : Run ε α) :
    within frame (guarded .shared frame.object frame.mode body) node =
      (body start).2.leave frame lock (body start).1 := by
  obtain ⟨⟨hold, held⟩, taken, same⟩ := Option.map_eq_some_iff.mp entered
  cases same
  have hold_eq : hold = ⟨hold.lock, frame.mode⟩ := by
    rw [GuardTable.take?_hold taken]
  have ends : (within frame (guarded .shared frame.object frame.mode body)).Ends node fun result after =>
      (result, after) = (body ((node.marked (.began frame)).withTable .shared held)).2.leave frame
        hold.lock (body ((node.marked (.began frame)).withTable .shared held)).1 := by
    rw [ends_within, ends_guarded]
    have taken : ((node.marked (.began frame)).table .shared).take? frame.object.text frame.mode =
        some (hold, held) := taken
    rw [taken]
    simp only [Ends, leave, ← hold_eq]
    cases leaves : ((body ((node.marked (.began frame)).withTable .shared held)).2.table .shared).leave?
        frame.object.text hold with
    | none =>
        simp only [table] at leaves
        simp [leaves]
    | some left =>
        simp only [table] at leaves
        simp [leaves]
  exact ends

/-- What leaves the guards alone. Just the taking and giving back of locks does not. -/
theorem framing_guards : Framing (fun _ => True) fun node after => after.guards = node.guards where
  refl _ := rfl
  trans _ _ _ first second := second.trans first
  consulted asked := asked.guards
  began _ _ _ := rfl
  ended _ _ _ := rfl

theorem Engine.guards_holdReservation (resource : Resource) (master slave : ObjectKey) (node : Node) :
    (holdReservation resource master slave (pure .null) node).2.guards = node.guards :=
  framing_guards.holdReservation (fun done => done.guards) (fun done => done.guards) trivial
    (Keeps.pure framing_guards.refl _) node

namespace Node

variable {ε α : Type} {node start after : Node} {frame : Frame} {lock : Nat}

theorem exists_enter? (frame : Frame) (granted : (node.guards.take? frame.object.text frame.mode).isSome) :
    ∃ lock start, node.enter? frame = some (lock, start) := by
  obtain ⟨⟨hold, held⟩, taken⟩ := Option.isSome_iff_exists.mp granted
  exact ⟨_, _, Option.map_eq_some_iff.mpr ⟨_, taken, rfl⟩⟩

theorem sound_enter? (entered : node.enter? frame = some (lock, start)) (sound : node.guards.Sound) :
    start.guards.Sound := by
  obtain ⟨⟨hold, held⟩, taken, same⟩ := Option.map_eq_some_iff.mp entered
  cases same
  exact GuardTable.Sound.take? taken sound

/-- Whoever leaves the guards as they were when the lock was taken gives back those that there were before. -/
theorem leave_enter? (entered : node.enter? frame = some (lock, start)) (sound : node.guards.Sound)
    (same : after.guards = start.guards) (result : Except (Halt ε) α) : (after.leave frame lock result).1 = result ∧
      node.guards.Agrees (after.leave frame lock result).2.guards ∧
      (after.leave frame lock result).2.guards.Sound := by
  obtain ⟨⟨hold, held⟩, taken, equal⟩ := Option.map_eq_some_iff.mp entered
  cases equal
  have known : held.Sound := GuardTable.Sound.take? taken sound
  have agrees : held.Agrees after.guards := same ▸ .refl _
  have hold_eq : (⟨hold.lock, frame.mode⟩ : Hold) = hold := by rw [GuardTable.take?_hold taken]
  obtain ⟨left, leaves, back, kept⟩ :=
    GuardTable.leave?_take? taken sound agrees (same ▸ known : after.guards.Sound)
  rw [leave, hold_eq, leaves]
  exact ⟨rfl, back, kept⟩

end Node

theorem Run.attempt_apply {ε ε' α : Type} {body : Run ε' α} {node : Node} :
    (attempt body : Run ε (Except ε' α)) node = (caught (body node).1, (body node).2) := by
  have ends : (attempt body : Run ε (Except ε' α)).Ends node fun result after =>
      (result, after) = (caught (body node).1, (body node).2) := ends_attempt.mpr rfl
  exact ends

/-- The locks of all the objects of a space but one can be had for reading. -/
def GuardTable.Readable (table : GuardTable) (key : ObjectKey) : Prop :=
  ∀ name, name ≠ key.object → (table.take? (key.sibling name).text .shared).isSome

theorem GuardTable.Readable.agrees {table after : GuardTable} {key : ObjectKey}
    (readable : table.Readable key) (sound : table.Sound) (known : after.Sound)
    (agrees : table.Agrees after) : after.Readable key := by
  intro name other
  rw [take?_isSome_iff known, agrees.holds_iff, agrees.holds_iff, ← take?_isSome_iff sound]
  exact readable name other

/-- Where no lock is held, to take that of an object leaves the others of its space to be had. -/
theorem GuardTable.readable_take? {table held : GuardTable} {key : ObjectKey} {mode : LockMode} {hold : Hold}
    (taken : table.take? key.text mode = some (hold, held)) (sound : table.Sound) (free : table.holds = []) :
    held.Readable key := by
  intro name other
  have unheld : ∀ side, ¬held.Holds (key.sibling name).text side := by
    intro side locked
    rw [holds_take?_iff taken sound, ← mem_holders_iff, holders_of_free free] at locked
    rcases locked with ⟨same, -⟩ | none'
    · exact ObjectKey.sibling_text_ne other same
    · cases none'
  exact (take?_isSome_iff (Sound.take? taken sound)).mpr ⟨unheld _, fun _ => unheld _⟩

namespace Caller

variable {engine : Engine} (caller : Caller engine) {lock : Nat} {node mid : Node}

section Finish

variable {α : Type} {body : Run ActionError α} {next : α → Run ActionError RawJson}

theorem conclude_congr {one other : Run ActionError RawJson} {node' : Node}
    (same : one node = other node') : caller.conclude one node = caller.conclude other node' := by
  simp only [conclude, Bind.bind, ExceptT.bind, ExceptT.mk, StateT.bind, attempt, ensuring, same]

theorem finish_bind_ok {a : α} (first : body node = (.ok a, mid)) :
    caller.finish lock (body >>= next) node = caller.finish lock (next a) mid := by
  rw [finish, caller.conclude_congr (bind_of_ok first), finish]

theorem finish_bind_error {halt : Halt ActionError} (first : body node = (.error halt, mid)) :
    caller.finish lock (body >>= next) node = caller.finish lock (throw halt) mid := by
  have ends : (body >>= next) node = (throw halt : Run ActionError RawJson) mid := bind_of_error first
  rw [finish, caller.conclude_congr ends, finish]

end Finish

variable {nested : Call → Run EngineError Response} {next : Outcome → Reservations caller.key}
  {body : Run ActionError RawJson} {result : Except (Halt ActionError) RawJson}

/-- To go on with the result of a reservation is to run the rest of the handler. -/
theorem comes_resume (ran : body node = (result, mid))
    (rest : ∀ outcome, caller.Comes (.handling lock (next outcome), mid)
      (caller.finish lock ((next outcome).program.run engine nested) mid)) :
    caller.Comes (caller.resume lock next result mid) (caller.finish lock
      (attempt body >>= fun outcome => (next outcome).program.run engine nested) node) := by
  have tried : (attempt body : Run ActionError Outcome) node = (caught result, mid) := by
    rw [attempt_apply, ran]
  rw [resume]
  cases course : (caught result : Except (Halt ActionError) Outcome) with
  | ok outcome =>
      rw [caller.finish_bind_ok (course ▸ tried)]
      exact rest outcome
  | error halt =>
      rw [caller.finish_bind_error (course ▸ tried)]
      exact .refl

/-- Where the locks can be had that it needs, the caller comes to the end of its handler. -/
theorem comes_finish (plan : Reservations caller.key) (sound : node.guards.Sound)
    (readable : node.guards.Readable caller.key) : caller.Comes (.handling lock plan, node)
      (caller.finish lock (plan.program.run engine nested) node) := by
  induction plan generalizing node with
  | done outcome => exact .single rfl
  | reserve name other next ih =>
      cases resolved : engine.resolve caller.key (caller.key.sibling name) node with
      | mk looked mid =>
          have same : mid.guards = node.guards := (Engine.ends_resolve.of_eq resolved).1.guards
          cases looked with
          | error halt =>
              have ran : engine.addDependency caller.key (caller.key.sibling name) (pure .null) node =
                  (.error halt, mid) := bind_of_error resolved
              refine .head ?_ (caller.comes_resume ran fun outcome => ih outcome ?_ ?_)
              · simp only [advance, resolved]
              · exact same ▸ sound
              · exact same ▸ readable
          | ok resource =>
              have known : mid.guards.Sound := same ▸ sound
              have open' : mid.guards.Readable caller.key := same ▸ readable
              obtain ⟨lock', start, entered⟩ :=
                exists_enter? (.dependency .add (caller.key.sibling name)) (open' name other)
              cases held : Engine.holdReservation resource caller.key (caller.key.sibling name) (pure .null)
                  start with
              | mk result after =>
                  have ran : engine.addDependency caller.key (caller.key.sibling name) (pure .null) node =
                      after.leave (.dependency .add (caller.key.sibling name)) lock' result := by
                    refine (bind_of_ok resolved).trans ((within_guarded entered
                      (Engine.holdReservation resource caller.key (caller.key.sibling name) _)).trans ?_)
                    rw [held]
                  have kept : after.guards = start.guards := by
                    rw [← Engine.guards_holdReservation resource caller.key (caller.key.sibling name) start,
                      held]
                  obtain ⟨given, agrees, last⟩ := leave_enter? entered known kept result
                  refine .head (b := (.seeking lock resource name other next, mid)) ?_ <|
                    .head (b := (.reserving lock resource name lock' next, start)) ?_ <|
                    .head (b := (.reserved lock name lock' result next, after)) ?_ <| .head rfl ?_
                  · simp only [advance, resolved]
                  · simp only [advance, entered, Option.map_some]
                  · simp only [advance, held]
                  · exact caller.comes_resume ran fun outcome =>
                      ih outcome last (open'.agrees known last agrees)

/-- A caller that nobody else is beside of comes to what the call gives. -/
theorem comes_alone (depth : Nat) (sound : node.guards.Sound) (free : node.guards.holds = []) :
    caller.Comes (.ready, node) (.finished (engine.call (depth + 1) caller.call node).1,
      (engine.call (depth + 1) caller.call node).2) := by
  obtain ⟨lock, start, entered⟩ := exists_enter? caller.frame
    (GuardTable.take?_isSome_of_free sound free)
  have known : start.guards.Sound := sound_enter? entered sound
  have readable : start.guards.Readable caller.key := by
    obtain ⟨⟨hold, held⟩, taken, same⟩ := Option.map_eq_some_iff.mp entered
    cases same
    exact GuardTable.readable_take? taken sound free
  let held := caller.resource.holdDispatch (engine.run depth) caller.key caller.call.request caller.action
  have called : engine.call (depth + 1) caller.call node =
      (held start).2.leave caller.frame lock (held start).1 := by
    refine Eq.trans ?_ (within_guarded entered held)
    simp only [Engine.call, caller.registered]
    rw [Resource.dispatch_eq, caller.described, caller.shared]
    rfl
  have leaves : caller.Comes (.opened lock, start) (.leaving lock (held start).1, (held start).2) := by
    cases checked : caller.resource.checkTarget caller.call.request.action caller.action.flags caller.key
        start with
    | mk result mid =>
        have same : mid.guards = start.guards := by
          have asked := Resource.ends_checkTarget.of_eq checked
          exact asked.1.guards
        cases result with
        | error halt =>
            have refused : held start = (.error halt, mid) := bind_of_error checked
            refine .single ?_
            simp only [advance, checked, refused]
        | ok =>
            refine .head (b := (.handling lock caller.plan, mid.marked (.began
              (caller.resource.handlerFrame caller.key caller.call.request caller.action)))) ?_ ?_
            · simp only [advance, checked]
            · have handled : held start = caller.conclude (caller.plan.program.run engine (engine.call depth))
                  (mid.marked (.began
                    (caller.resource.handlerFrame caller.key caller.call.request caller.action))) := by
                refine (bind_of_ok checked).trans ?_
                rw [caller.handles]
                rfl
              rw [handled]
              exact caller.comes_finish caller.plan (same ▸ known) (same ▸ readable)
  rw [called]
  refine .head ?_ (leaves.trans (.single rfl))
  simp only [advance, entered, Option.map_some]

end Caller

end Provision
