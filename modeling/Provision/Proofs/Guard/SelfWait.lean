import Provision.Proofs.Guard.Apart
import Provision.Proofs.Run.Completed

/-! # Handlers that wait for themselves

A handler reserves and releases for its own object, in scopes as deep as it likes, and nobody else holds a
lock. Its dispatch holds the lock of the object, and the dependency operations take the locks of objects
that the payload names. The object itself may be among these. A reservation of the object for itself is
refused before it takes the lock. A release is not: it asks for the lock that its own dispatch holds.
-/

namespace Provision

open Run Node

/-- The program reserves and releases for an object, in scopes too, and changes nothing else. -/
def Program.Reserving (object : ObjectKey) : Program → Prop
  | .done _ => True
  | .panic _ | .store _ _ | .call _ _ => False
  | .note _ next => next.Reserving object
  | .look _ next => ∀ view, (next view).Reserving object
  | .policy _ _ next => ∀ flags, (next flags).Reserving object
  | .depend _ master slave scope next =>
    (master = object ∧ ∃ name, slave = object.sibling name) ∧ scope.Reserving object ∧
      ∀ outcome, (next outcome).Reserving object

/-! ## Where such a handler waits -/

namespace Point

variable {engine : Engine} {point start moment : Point} {object key : ObjectKey} {frame : Frame}
  {frames : List Frame} {mode : LockMode}

/-- The next operation is to release an object for itself, and the kind of its record is registered. -/
inductive ReleasesSelf (engine : Engine) (object : ObjectKey) : Point → Prop where
  | intro {depth : Nat} {scope : Program} {next : Outcome → Program} {node looked : Node}
      {resource : Resource} (found : engine.resourceOf object node = (.ok resource, looked)) :
      ReleasesSelf engine object ⟨depth, .depend .remove object object scope next, node⟩

/-- A call opens its handler, inside a dispatch of its object. -/
theorem Opens.handles {depth : Nat} {call : Call} {next : Except EngineError Response → Program}
    {node : Node} (opens : Opens engine ⟨depth, .call call next, node⟩ frame start) :
    ∃ resource action span, engine.resource? call.kind = some resource ∧
      resource.action? call.request.action = some action ∧
      frame = .dispatch span action.flags.mode ∧ frame.object = call.key ∧
      start.rest = action.handler call.key call.request.payload := by
  cases opens with
  | handler registered described => exact ⟨_, _, _, registered, described, rfl, rfl, rfl⟩

theorem reserving_step {nested : Call → Run EngineError Response} {program rest : Program}
    {node after : Node} (reserving : program.Reserving object)
    (steps : program.step engine nested node = (.ok rest, after)) : rest.Reserving object := by
  cases program with
  | done outcome =>
      obtain ⟨output, mid, -, same⟩ := bind_eq_ok steps
      cases same
      trivial
  | panic | store | call => exact reserving.elim
  | note told next =>
      cases steps
      exact reserving
  | look object next =>
      cases steps
      exact reserving _
  | policy kind action next =>
      cases steps
      exact reserving _
  | depend change master slave scope next =>
      obtain ⟨outcome, mid, -, same⟩ := bind_eq_ok steps
      cases same
      exact reserving.2.2 outcome

/-- What such a handler opens are dependency operations on siblings of its object. -/
theorem Passes.reserving (passes : Passes engine point frames moment)
    (reserving : point.rest.Reserving object) : moment.rest.Reserving object ∧
      ∀ frame ∈ frames, ∃ change name, frame = .dependency change (object.sibling name) := by
  induction passes with
  | here => exact ⟨reserving, nofun⟩
  | inside opens _ ih =>
      cases opens with
      | handler => exact reserving.elim
      | reservation | release =>
          obtain ⟨⟨-, name, rfl⟩, inner, -⟩ := reserving
          obtain ⟨rest, known⟩ := ih inner
          refine ⟨rest, fun frame member => ?_⟩
          rcases List.mem_append.mp member with within | outer
          · exact known frame within
          · exact ⟨_, name, List.mem_singleton.mp outer⟩
  | onward steps _ ih => exact ih (reserving_step reserving steps)

/-- What such a handler needs is the reader side of a sibling's lock; of its object's own, for a release. -/
theorem Needs.reserving (needs : moment.Needs engine key mode) (reserving : moment.rest.Reserving object) :
    mode = .shared ∧ (∃ name, key = object.sibling name) ∧
      (key = object → moment.ReleasesSelf engine object) := by
  cases needs with
  | call => exact reserving.elim
  | reservation resolved =>
      obtain ⟨⟨rfl, sibling⟩, -⟩ := reserving
      have different := (Engine.ends_resolve.of_eq resolved).2.1
      exact ⟨rfl, sibling, fun same => absurd same.symm different⟩
  | release found =>
      obtain ⟨⟨rfl, sibling⟩, -⟩ := reserving
      exact ⟨rfl, sibling, fun same => by cases same; exact .intro found⟩

theorem ReleasesSelf.needs (releases : moment.ReleasesSelf engine object) :
    moment.Needs engine object .shared := by
  cases releases with
  | intro found => exact .release found

end Point

/-- The call runs its handler alone on the object, and the handler gets to where it is to release the
    object for itself. -/
def Engine.GetsToSelfRelease (engine : Engine) (depth : Nat) (call : Call) (node : Node) : Prop :=
  ∃ next span start frames moment,
    Point.Opens engine ⟨depth, .call call next, node⟩ (.dispatch span .exclusive) start ∧
    Point.Passes engine start frames moment ∧ moment.ReleasesSelf engine call.key

section Waits

variable {engine : Engine} (built : engine.Built) {depth : Nat} {call : Call} {node : Node}
  (sound : node.guards.Sound) (free : node.guards.holds = []) {key : ObjectKey}
  {next : Except EngineError Response → Program} {frame : Frame} {start moment : Point} {frames : List Frame}

include built sound free

/-- In a handler just what its own dispatch has open can be in the way. -/
theorem Point.Passes.refused_iff {mode : LockMode}
    (opens : Point.Opens engine ⟨depth, .call call next, node⟩ frame start)
    (passes : Point.Passes engine start frames moment) :
    moment.node.guards.take? key.text mode = none ↔ ∃ other ∈ frames ++ [frame], other.Blocks key mode := by
  obtain ⟨hold, taken⟩ := opens.takes built
  have opened := GuardTable.Carries.of_take? taken sound (GuardTable.exclusion_of_free free)
  exact (opened.trans (passes.carries built opened.sound opened.exclusion)).take?_eq_none_iff free

variable (reserving : ∀ resource action, engine.resource? call.kind = some resource →
  resource.action? call.request.action = some action →
    (action.handler call.key call.request.payload).Reserving call.key)

include reserving

theorem Engine.waits_call_iff : (engine.call depth call).Waits node key ↔
    key = call.key ∧ engine.GetsToSelfRelease depth call node := by
  constructor
  · intro waits
    have heldUp : Point.HeldUp engine ⟨depth, .call call fun _ => .done (.ok .null), node⟩ key :=
      (Point.waits_call built sound).mp waits
    obtain ⟨mode, needs, refused⟩ | ⟨frame, start, opens, waits⟩ := heldUp
    · have granted : (node.guards.take? key.text mode).isSome := GuardTable.take?_isSome_of_free sound free
      rw [refused] at granted
      cases granted
    · have known : start.node.guards.Sound := opens.sound built sound
      obtain ⟨frames, moment, passes, mode, needs, refused⟩ :=
        (Point.waits_iff_getsStuck built known).mp waits
      obtain ⟨other, member, ⟨shares, writes⟩⟩ :=
        (passes.refused_iff built sound free opens).mp refused
      obtain ⟨resource, action, span, registered, described, dispatch, object, handler⟩ := opens.handles
      obtain ⟨rest, inner⟩ := passes.reserving (handler ▸ reserving resource action registered described)
      obtain ⟨rfl, ⟨name, rfl⟩, own⟩ := needs.reserving rest
      have writer : other.mode = .exclusive := writes.resolve_right nofun
      rcases List.mem_append.mp member with within | outer
      · obtain ⟨change, name, rfl⟩ := inner other within
        cases writer
      · cases List.mem_singleton.mp outer
        rw [object] at shares
        have same := (shares.resolve_right ObjectKey.not_overlaps_sibling).symm
        subst dispatch
        rw [show action.flags.mode = .exclusive from writer] at opens
        exact ⟨same, _, span, start, frames, moment, opens, passes, own same⟩
  · rintro ⟨rfl, next, span, start, frames, moment, opens, passes, releases⟩
    have known : start.node.guards.Sound := opens.sound built sound
    refine (Point.waits_call built sound).mpr (.inr ⟨_, start, opens, ?_⟩)
    rw [Point.waits_iff_getsStuck built known]
    refine ⟨frames, moment, passes, .shared, releases.needs, ?_⟩
    rw [passes.refused_iff built sound free opens]
    obtain ⟨-, -, -, -, -, -, object, -⟩ := opens.handles
    exact ⟨_, List.mem_append_right _ (List.mem_singleton_self _), .inl object, .inl rfl⟩

end Waits

/-! ## What does not wait comes to its end -/

namespace Run

variable {ε ε' α : Type}

/-- The run comes to its end or waits, and leaves a ledger whose sides tell the same, and the guards and locks
    that there were. -/
def Lasts (body : Run ε α) : Prop :=
  ∀ node, node.store.Paired → node.guards.Sound → body.Ends node fun result after =>
    after.store.Paired ∧ after.guards.Sound ∧ node.guards.Agrees after.guards ∧
      (Completed result ∨ ∃ key, result = .error (.waits key))

namespace Lasts

/-- What only asks, or gives one order, comes to its end if it ends with a value or an error. -/
theorem of_ends {body : Run ε α} (ends : ∀ node, node.store.Paired → body.Ends node fun result after =>
    (Consulted node after ∨ ∃ call, Performed call node after) ∧ Completed result) : body.Lasts := by
  intro node paired sound
  refine (ends node paired).imp fun result after both => ?_
  obtain ⟨asked | ⟨call, done⟩, completed⟩ := both
  · exact ⟨asked.store ▸ paired, asked.guards ▸ sound, asked.guards ▸ .refl _, .inl completed⟩
  · exact ⟨done.store ▸ paired.after call, done.guards ▸ sound, done.guards ▸ .refl _, .inl completed⟩

theorem composed : Composed fun body => Lasts body where
  pure _ := of_ends fun node _ => ⟨.inl (.refl node), trivial⟩
  fail _ := of_ends fun node _ => ⟨.inl (.refl node), trivial⟩
  bind {_ _ _ body next} first second node paired sound := by
    refine ((first : Lasts body) node paired sound).bind ?_ ?_
    · intro value mid both
      obtain ⟨paired', sound', agrees, -⟩ := both
      refine ((second value : Lasts _) mid paired' sound').imp fun result after further => ?_
      exact ⟨further.1, further.2.1, agrees.trans further.2.2.1, further.2.2.2⟩
    · intro halt mid both
      obtain ⟨paired', sound', agrees, ended⟩ := both
      refine ⟨paired', sound', agrees, ended.imp completed_error ?_⟩
      rintro ⟨key, ⟨⟩⟩
      exact ⟨key, rfl⟩
  attempt {_ _ _ body} lasts node paired sound := by
    rw [ends_attempt]
    refine ((lasts : Lasts body) node paired sound).imp fun result after both => ?_
    obtain ⟨paired', sound', agrees, ended⟩ := both
    refine ⟨paired', sound', agrees, ended.imp completed_caught.mpr ?_⟩
    rintro ⟨key, rfl⟩
    exact ⟨key, rfl⟩

theorem mapError {body : Run ε' α} (lasts : body.Lasts) (f : ε' → ε) : (body.mapError f).Lasts := by
  intro node paired sound
  rw [ends_mapError]
  refine (lasts node paired sound).imp fun result after both => ?_
  obtain ⟨paired', sound', agrees, ended⟩ := both
  refine ⟨paired', sound', agrees, ended.imp completed_mapError.mpr ?_⟩
  rintro ⟨key, rfl⟩
  exact ⟨key, rfl⟩

theorem within {frame : Frame} {body : Run ε α} (lasts : body.Lasts) :
    (Run.within frame body).Lasts := by
  intro node paired sound
  rw [ends_within]
  exact lasts (node.marked (.began frame)) paired sound

theorem guarded {key : ObjectKey} {mode : LockMode} {body : Run ε α} (lasts : body.Lasts) :
    (Run.guarded .shared key mode body).Lasts := by
  intro node paired sound
  refine Ends.guarded sound (fun _ => ⟨paired, sound, .refl _, .inr ⟨key, rfl⟩⟩) fun hold held taken => ?_
  have known : (node.withTable .shared held).guards.Sound := GuardTable.Sound.take? taken sound
  refine (lasts (node.withTable .shared held) paired known).imp fun result after both => ?_
  obtain ⟨paired', sound', agrees, ended⟩ := both
  exact ⟨agrees, sound', fun left same known => ⟨paired', known, same, ended⟩⟩

theorem mark (entry : Mark) (idle : entry.Idle) : (Run.mark entry : Run ε Unit).Lasts :=
  of_ends fun _ _ => ⟨.inl (.marked idle), trivial⟩

theorem operating : Operating (fun _ => True) fun body => Lasts body where
  toComposed := composed
  mapError f lasts := lasts.mapError f
  mark entry spoken := mark entry spoken.idle
  ask call _ := of_ends fun _ _ => ends_ask (fun _ _ _ asked => ⟨.inl asked, trivial⟩)
    fun _ done => ⟨.inr ⟨call, done⟩, trivial⟩
  dependsOn _ := of_ends fun _ paired => (learns_dependsOn paired).imp fun result after both => by
    obtain ⟨asked, known⟩ := both
    cases result with
    | ok => exact ⟨.inl asked, trivial⟩
    | error halt =>
        obtain ⟨⟨cause, rfl⟩, -⟩ := known
        exact ⟨.inl asked, trivial⟩
  within frame _ lasts := within lasts
  guarded _ lasts := guarded lasts

theorem program_run {engine : Engine} {nested : Call → Run EngineError Response} {object : ObjectKey} {program : Program}
    (reserving : program.Reserving object) : (program.run engine nested).Lasts := by
  induction program with
  | done outcome => exact composed.ofExcept outcome
  | panic | store | call => exact reserving.elim
  | note told next ih => exact composed.bind (mark _ trivial) fun _ => ih reserving
  | look key next ih =>
      exact composed.bind (of_ends fun node _ => ⟨.inl (.refl node), trivial⟩) fun node => ih _ (reserving _)
  | policy kind action next ih => exact ih _ (reserving _)
  | depend change master slave scope next ihScope ihNext =>
      obtain ⟨-, inner, rest⟩ := reserving
      refine composed.bind (composed.attempt ?_) fun outcome => ihNext outcome (rest outcome)
      cases change with
      | add => exact operating.addDependency trivial trivial (ihScope inner)
      | remove => exact operating.removeDependency trivial trivial (ihScope inner)

end Lasts

end Run

/-- A handler that reserves and releases for its own object waits for nothing, but for itself: just if it
    runs alone on the object and gets to where it is to release the object for itself. Otherwise the call
    comes to its end. -/
theorem waits_iff_releases_self {engine : Engine} (built : engine.Built) (depth : Nat) (call : Call)
    {node : Node} (sound : node.guards.Sound) (free : node.guards.holds = [])
    (paired : node.store.Paired)
    (reserving : ∀ resource action, engine.resource? call.kind = some resource →
      resource.action? call.request.action = some action →
        (action.handler call.key call.request.payload).Reserving call.key) :
    (∀ key, (engine.call (depth + 1) call).Waits node key ↔
      key = call.key ∧ engine.GetsToSelfRelease (depth + 1) call node) ∧
    (Completed (engine.call (depth + 1) call node).1 ↔
      ¬engine.GetsToSelfRelease (depth + 1) call node) := by
  have waits : ∀ key, (engine.call (depth + 1) call).Waits node key ↔
      key = call.key ∧ engine.GetsToSelfRelease (depth + 1) call node := fun key =>
    engine.waits_call_iff built sound free reserving
  have lasts : (engine.call (depth + 1) call).Lasts := by
    rw [Engine.call]
    split
    next => exact Lasts.composed.fail _
    next resource registered =>
      exact Lasts.operating.dispatch (built.guards (Engine.mem_of_resource? registered).1) trivial
        fun action described => Lasts.program_run (reserving resource action registered described)
  refine ⟨waits, fun completed releases => ?_, fun never => ?_⟩
  · have waiting : (engine.call (depth + 1) call node).1 = _ := (waits call.key).mpr ⟨rfl, releases⟩
    rw [waiting] at completed
    exact completed
  · obtain ⟨-, -, -, completed | ⟨key, waiting⟩⟩ := lasts node paired sound
    · exact completed
    · exact absurd ((waits key).mp waiting).2 never

namespace Small

/-- Gives up what the object relies on in the object of a name. -/
def detach (name : String) : Handler := fun key _ =>
  .depend .remove key (key.sibling name) (.done (.ok .null)) .done

def box : Resource where
  name := "box"
  flags := .shareable
  actions := [("detach", ⟨detach "a", .exclusive⟩)]

def boxEngine : Engine where
  resources := [{ box with guards := .shared }]

/-- A box is stored, and nothing else. -/
def boxNode : Node where
  store := MemoryStore.empty.write (object "a") ⟨"box", []⟩

/-- Detaches the box from itself. -/
def selfDetach : Call := ⟨1, "space", "box", { action := "detach", object := "a" }⟩

theorem boxEngine_built : boxEngine.Built := by
  have described : ({ name := "box", flags := .shareable } : Resource).withAction "detach" (detach "a")
      .exclusive = .ok box := rfl
  exact .withResource .empty (.withAction (.new "box" .shareable) described) rfl

theorem detach_reserving (resource : Resource) (action : Action)
    (registered : boxEngine.resource? selfDetach.kind = some resource)
    (described : resource.action? selfDetach.request.action = some action) :
    (action.handler selfDetach.key selfDetach.request.payload).Reserving selfDetach.key := by
  cases registered
  cases described
  exact ⟨⟨rfl, "a", rfl⟩, trivial, fun _ => trivial⟩

theorem selfDetach_waits : (boxEngine.call 1 selfDetach).Waits boxNode (object "a") := by
  unfold Waits
  decide +kernel

end Small

/-- A detach that names its own object waits for the lock that it holds itself. -/
theorem detach_waits_for_itself :
    Small.boxEngine.Built ∧ Small.boxNode.guards.holds = [] ∧
    ((Small.detach "a" (Small.object "a") .null).Reserving (Small.object "a")) ∧
    (Small.boxEngine.call 1 Small.selfDetach).Waits Small.boxNode (Small.object "a") :=
  ⟨Small.boxEngine_built, rfl, ⟨⟨rfl, "a", rfl⟩, trivial, fun _ => trivial⟩, Small.selfDetach_waits⟩

/-- The general statement for this detach: it gets to where it is to release the box for itself, and does not
    come to its end. -/
theorem waits_iff_releases_self_detach :
    (Small.boxEngine.Built ∧ Small.boxNode.guards.Sound ∧ Small.boxNode.guards.holds = [] ∧
      Small.boxNode.store.Paired) ∧
    Small.boxEngine.GetsToSelfRelease 1 Small.selfDetach Small.boxNode ∧
    ¬Completed (Small.boxEngine.call 1 Small.selfDetach Small.boxNode).1 := by
  have paired : Small.boxNode.store.Paired := MemoryStore.paired_empty.after (.write _ _)
  have sound : Small.boxNode.guards.Sound := GuardTable.sound_empty
  have general := waits_iff_releases_self Small.boxEngine_built 0 Small.selfDetach sound rfl paired
    Small.detach_reserving
  obtain ⟨-, releases⟩ := (general.1 _).mp Small.selfDetach_waits
  exact ⟨⟨Small.boxEngine_built, sound, rfl, paired⟩, releases,
    fun completed => general.2.mp completed releases⟩

end Provision
