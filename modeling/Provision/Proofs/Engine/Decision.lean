import Provision.Proofs.Guard.Balance

/-! # Which calls reach their handler

A call has to keep a few rules: its kind and its action are registered, its object exists just if the
action is not to create it and is of the kind that was called, and nothing relies on an object that is
to be deleted. A call that keeps them all runs its handler, once. Any other is refused with the first
rule that it breaks, in the order in which they are looked at, and nothing changes.
-/

namespace Provision

open Run Node

/-! ## The rules -/

structure Engine.Describes (engine : Engine) (call : Call) (resource : Resource) (action : Action) :
    Prop where
  registered : engine.resource? call.kind = some resource
  described : resource.action? call.request.action = some action

/-- The rules that a call breaks, each by the error that it is refused with. -/
inductive Engine.Breaks (engine : Engine) (store : MemoryStore) (call : Call) : EngineError → Prop where
  | unregistered (unknown : engine.resource? call.kind = none) :
      Breaks engine store call (.resourceNotFound call.kind)
  | undescribed {resource : Resource} (registered : engine.resource? call.kind = some resource)
      (unknown : resource.action? call.request.action = none) :
      Breaks engine store call (.actionNotFound call.request.action)
  | taken {resource : Resource} {action : Action} (describes : engine.Describes call resource action)
      (creates : action.flags.requiresNew = true) (present : store.hasRecord call.key = true) :
      Breaks engine store call (.objectExists call.key)
  | missing {resource : Resource} {action : Action} (describes : engine.Describes call resource action)
      (acts : action.flags.requiresNew = false) (absent : store.hasRecord call.key = false) :
      Breaks engine store call (.objectDoesNotExist call.key)
  | foreign {resource : Resource} {action : Action} {record : Record}
      (describes : engine.Describes call resource action)
      (found : store.record? call.key = some record) (other : record.kind ≠ resource.name) :
      Breaks engine store call (.objectInvalidType call.key resource.name record.kind)
  | used {resource : Resource} {action : Action} (describes : engine.Describes call resource action)
      (deleting : call.request.action = Resource.deleteAction)
      (relied : store.mastersOf call.key ≠ []) :
      Breaks engine store call (.objectInUse call.key)

/-- The turn in which the rules are looked at. -/
def EngineError.turn : EngineError → Nat
  | .resourceNotFound _ => 0
  | .actionNotFound _ => 1
  | .objectExists _ => 2
  | .objectDoesNotExist _ => 3
  | .objectInvalidType .. => 4
  | .objectInUse _ => 5
  | .dependencyCycle .. | .decode .. | .encode .. | .store _ => 6

/-- The first rule that a call breaks. -/
structure Engine.BreaksFirst (engine : Engine) (store : MemoryStore) (call : Call)
    (error : EngineError) : Prop where
  breaks : engine.Breaks store call error
  first : ∀ other, engine.Breaks store call other → error.turn ≤ other.turn

structure Engine.Accepts (engine : Engine) (store : MemoryStore) (call : Call) (resource : Resource)
    (action : Action) : Prop
    extends engine.Describes call resource action,
      resource.Accepts call.request.action action.flags call.key store

namespace Engine

variable {engine : Engine} {store : MemoryStore} {call : Call} {resource other : Resource}
  {action described : Action} {error : EngineError}

theorem Describes.unique (describes : engine.Describes call resource action)
    (also : engine.Describes call other described) : other = resource ∧ described = action := by
  have same := describes.registered.symm.trans also.registered
  cases same
  exact ⟨rfl, Option.some.inj (also.described.symm.trans describes.described)⟩

/-- The rules that are left once the kind and the action are known. -/
theorem Describes.breaks_cases (describes : engine.Describes call resource action)
    (breaks : engine.Breaks store call error) :
    error = .objectExists call.key ∧ action.flags.requiresNew = true ∧
        store.hasRecord call.key = true ∨
      error = .objectDoesNotExist call.key ∧ action.flags.requiresNew = false ∧
        store.hasRecord call.key = false ∨
      (∃ record, error = .objectInvalidType call.key resource.name record.kind ∧
        store.record? call.key = some record ∧ record.kind ≠ resource.name) ∨
      error = .objectInUse call.key ∧ call.request.action = Resource.deleteAction ∧
        store.mastersOf call.key ≠ [] := by
  cases breaks with
  | unregistered unknown => simp [describes.registered] at unknown
  | undescribed registered unknown =>
      cases describes.registered.symm.trans registered
      simp [describes.described] at unknown
  | taken also creates present =>
      obtain ⟨rfl, rfl⟩ := describes.unique also
      exact .inl ⟨rfl, creates, present⟩
  | missing also acts absent =>
      obtain ⟨rfl, rfl⟩ := describes.unique also
      exact .inr (.inl ⟨rfl, acts, absent⟩)
  | foreign also found other =>
      obtain ⟨rfl, rfl⟩ := describes.unique also
      exact .inr (.inr (.inl ⟨_, rfl, found, other⟩))
  | used _ deleting relied => exact .inr (.inr (.inr ⟨rfl, deleting, relied⟩))

theorem Accepts.not_breaks (accepts : engine.Accepts store call resource action) :
    ¬engine.Breaks store call error := by
  intro breaks
  obtain ⟨-, creates, present⟩ | ⟨-, acts, absent⟩ | ⟨record, -, found, other⟩ |
    ⟨-, deleting, relied⟩ := accepts.toDescribes.breaks_cases breaks
  · simp [accepts.new, creates] at present
  · simp [accepts.new, acts] at absent
  · exact other (accepts.kind record found)
  · exact relied (accepts.unused deleting)

/-- What the checks under the lock refuse a call with is the first rule that it breaks. -/
theorem Describes.breaksFirst (describes : engine.Describes call resource action)
    (refuses : resource.Refuses call.request.action action.flags call.key store error) :
    engine.BreaksFirst store call error := by
  -- A rule whose turn is earlier is not broken, since the check of it was passed.
  cases refuses with
  | taken creates present =>
      refine ⟨.taken describes creates present, fun other breaks => ?_⟩
      obtain ⟨rfl, -⟩ | ⟨rfl, -⟩ | ⟨record, rfl, -⟩ | ⟨rfl, -⟩ := describes.breaks_cases breaks
      all_goals simp [EngineError.turn]
  | missing acts absent =>
      refine ⟨.missing describes acts absent, fun other breaks => ?_⟩
      obtain ⟨-, creates, -⟩ | ⟨rfl, -⟩ | ⟨record, rfl, -⟩ | ⟨rfl, -⟩ := describes.breaks_cases breaks
      · simp [acts] at creates
      all_goals simp [EngineError.turn]
  | foreign acts found different =>
      have present := MemoryStore.hasRecord_iff.mpr ⟨_, found⟩
      refine ⟨.foreign describes found different, fun other breaks => ?_⟩
      obtain ⟨-, creates, -⟩ | ⟨-, -, absent⟩ | ⟨record, rfl, -⟩ | ⟨rfl, -⟩ :=
        describes.breaks_cases breaks
      · simp [acts] at creates
      · simp [present] at absent
      all_goals simp [EngineError.turn]
  | used admits deleting relied =>
      refine ⟨.used describes deleting relied, fun other breaks => ?_⟩
      obtain ⟨-, creates, present⟩ | ⟨-, acts, absent⟩ | ⟨record, -, found, foreign⟩ | ⟨rfl, -⟩ :=
        describes.breaks_cases breaks
      · simp [admits.new, creates] at present
      · simp [admits.new, acts] at absent
      · exact absurd (admits.kind record found) foreign
      · exact Nat.le_refl _

/-- Rules have turns of their own, so only one of them is the first. -/
theorem BreaksFirst.unique {error' : EngineError} (first : engine.BreaksFirst store call error)
    (first' : engine.BreaksFirst store call error') : error = error' := by
  have turns := Nat.le_antisymm (first.first _ first'.breaks) (first'.first _ first.breaks)
  cases first.breaks <;> cases first'.breaks
  case foreign.foreign describes found _ _ _ _ describes' found' _ =>
    obtain ⟨rfl, rfl⟩ := describes.unique describes'
    cases found.symm.trans found'
    rfl
  all_goals first
    | rfl
    | exact absurd turns (by simp [EngineError.turn])

theorem exists_accepts_iff :
    (∃ resource action, engine.Accepts store call resource action) ↔
      ∀ error, ¬engine.Breaks store call error := by
  constructor
  · rintro ⟨resource, action, accepts⟩ error
    exact accepts.not_breaks
  · intro keeps
    cases registered : engine.resource? call.kind with
    | none => exact absurd (.unregistered registered) (keeps _)
    | some resource =>
        cases described : resource.action? call.request.action with
        | none => exact absurd (.undescribed registered described) (keeps _)
        | some action =>
            have describes : engine.Describes call resource action := ⟨registered, described⟩
            refine ⟨resource, action, describes, ⟨?_, fun record found => ?_⟩, fun deleting => ?_⟩
            · cases creates : action.flags.requiresNew with
              | true =>
                  exact Bool.eq_false_iff.mpr fun present => keeps _ (.taken describes creates present)
              | false =>
                  exact Bool.not_eq_false _ |>.mp fun absent => keeps _ (.missing describes creates absent)
            · exact not_not.mp fun other => keeps _ (.foreign describes found other)
            · exact not_not.mp fun relied => keeps _ (.used describes deleting relied)

end Engine

/-! ## After the handler -/

/-- What was done since is to carry out an order, or to ask only if there was none. -/
def Obeys : Option StoreCall → Node → Node → Prop
  | some order => Performed order
  | none => Consulted

/-- The same is planned to go wrong. -/
def SamePlan (node after : Node) : Prop := after.faults.schedule = node.faults.schedule

theorem SamePlan.lockless : Lockless (fun _ => True) SamePlan where
  refl _ := rfl
  trans _ _ _ first second := Eq.trans second first
  consulted asked := asked.schedule
  began _ _ _ := rfl
  ended _ _ _ := rfl
  table _ _ _ := by rw [SamePlan, faults_withTable]

theorem SamePlan.run (engine : Engine) (depth : Nat) (program : Program) :
    Keeps SamePlan (engine.run depth program) := by
  have upheld : Upheld engine (fun _ => True) (fun _ _ => True) fun _ => SamePlan :=
    lockless.upheld Performed.schedule
  exact @Upheld.run _ _ _ _ upheld (fun _ _ => trivial)
    (fun resource _ => resource.confined_of_all fun _ _ => trivial) depth .caller _
    (program.confined_of_all fun _ => trivial)

theorem SamePlan.calm {node after : Node} (same : SamePlan node after) (calm : node.faults.Calm) :
    after.faults.Calm := by
  intro operation n
  rw [same]
  exact calm operation n

namespace Resource

/-- The order that follows a handler: the record of a deleted object is removed, and an object that
    was not created after all gives up what it relies on. -/
def order? (action : String) (flags : ActionFlags) (key : ObjectKey) (store : MemoryStore) :
    Except (Halt ActionError) RawJson → Option StoreCall
  | .ok _ => if action = deleteAction then some (.remove key) else none
  | .error (.error _) =>
    if flags.requiresNew && !store.hasRecord key then some (.release key) else none
  | .error _ => none

/-- What a call is answered with after its handler. -/
def reply (action : String) (key : ObjectKey) (store : MemoryStore)
    (outcome : Except (Halt ActionError) RawJson) : Except (Halt EngineError) Response :=
  match (caught outcome : Except (Halt EngineError) (Except ActionError RawJson)) with
  | .ok (.ok output) =>
    if action = deleteAction && !store.hasRecord key then .error (.error (.store (.notFound key)))
    else .ok { payload := some output }
  | .ok (.error error) => .ok { error := error.message }
  | .error halt => .error halt

variable {resource : Resource} {run : Program → Run ActionError RawJson} {key : ObjectKey}
  {request : Request} {action : Action} {node done after : Node}
  {outcome : Except (Halt ActionError) RawJson} {result : Except (Halt EngineError) Response}

theorem order?_of_halted {flags : ActionFlags} {store : MemoryStore} {name : String}
    {halt : Halt EngineError}
    (stopped : (caught outcome : Except (Halt EngineError) (Except ActionError RawJson)) = .error halt) :
    order? name flags key store outcome = none := by
  cases outcome with
  | ok => cases stopped
  | error halt =>
      cases halt with
      | error => cases stopped
      | panic | waits | tooDeep => rfl

theorem Handles.calm (handles : resource.Handles run key request action node outcome done)
    (keeps : ∀ program, Keeps SamePlan (run program)) (calm : node.faults.Calm) : done.faults.Calm := by
  obtain ⟨mid, passed, ran⟩ := handles.ran
  have planned : SamePlan (mid.marked (.began (resource.handlerFrame key request action))) done :=
    (keeps _).of_eq ran
  exact planned.calm (passed.calm_iff.mpr calm)

/-- If no call to the store goes wrong, a dispatch is refused by its rules, or what follows its handler
    is settled by how that ended and whether the object has a record then. -/
theorem Concludes.closes (course : resource.Concludes run key request action node result after)
    (keeps : ∀ program, Keeps SamePlan (run program)) (calm : node.faults.Calm) :
    (∃ error, result = .error (.error error) ∧ Consulted node after ∧
      resource.Refuses request.action action.flags key node.store error) ∨
    ∃ outcome done, resource.Handles run key request action node outcome done ∧
      result = reply request.action key done.store outcome ∧
      Obeys (order? request.action action.flags key done.store outcome)
        (done.marked (.ended (resource.handlerFrame key request action))) after := by
  cases course with
  | refused asked why => exact .inl ⟨_, rfl, asked, why calm⟩
  | halted handles stopped =>
      refine .inr ⟨_, _, handles, by simp [reply, stopped], ?_⟩
      rw [order?_of_halted stopped]
      exact .refl _
  | succeeded handles other =>
      refine .inr ⟨_, _, handles, by simp [reply, caught, other], ?_⟩
      simp [order?, other, Obeys, Consulted.refl]
  | deleted handles deleting removed present =>
      refine .inr ⟨_, _, handles, by simp [reply, caught, present], ?_⟩
      simpa [order?, deleting, Obeys] using removed
  | undeleted handles deleting course =>
      obtain ⟨wrong, -⟩ | ⟨missing, rfl, removed⟩ := course
      · exact absurd (handles.calm keeps calm) wrong
      · refine .inr ⟨_, _, handles, by simp [reply, caught, deleting, missing], ?_⟩
        simpa [order?, deleting, Obeys] using removed
  | failed handles kept asked =>
      refine .inr ⟨_, _, handles, rfl, ?_⟩
      have present := fun creates => kept creates (handles.calm keeps calm).honest
      cases creates : action.flags.requiresNew with
      | true => simpa [order?, creates, present creates, Obeys] using asked
      | false => simpa [order?, creates, Obeys] using asked
  | gaveUp handles creates missing released =>
      refine .inr ⟨_, _, handles, rfl, ?_⟩
      have absent := missing (handles.calm keeps calm).honest
      simpa [order?, creates, absent, Obeys] using released
  | stuck handles wrong _ => exact absurd (handles.calm keeps calm) wrong

end Resource

/-! ## What a call does -/

/-- No order was given and no handler ran: there was at most a dispatch that asked. -/
structure Unmoved (node after : Node) : Prop where
  store : after.store = node.store
  guards : node.guards.Agrees after.guards
  history : ∃ marks, after.history = marks ++ node.history ∧ ∀ mark ∈ marks, mark.Idle ∨
    ∃ span mode, mark = .began (.dispatch span mode) ∨ mark = .ended (.dispatch span mode)

/-- The handler of a call begins: its object is locked, and the call has done nothing but ask. -/
structure Call.Begins (call : Call) (resource : Resource) (action : Action) (node start : Node) :
    Prop where
  store : start.store = node.store
  locked : start.guards.Holds call.key.text action.flags.mode
  history : ∃ asked, (∀ mark ∈ asked, mark.Idle) ∧ start.history =
    .began (resource.handlerFrame call.key call.request action) :: (asked ++
      .began (resource.dispatchFrame call.key call.request action) :: node.history)

/-- How a call comes out. Either it breaks a rule and is refused with the first such, or its handler
    runs from the store that it found, followed by at most one order. -/
inductive Engine.Decides (engine : Engine) (depth : Nat) (call : Call) (node : Node) :
    Except (Halt EngineError) Response → Node → Prop where
  | refused {error : EngineError} {after : Node} (first : engine.BreaksFirst node.store call error)
      (unmoved : Unmoved node after) : Decides engine depth call node (.error (.error error)) after
  | handled {resource : Resource} {action : Action} {start done last after : Node}
      {outcome : Except (Halt ActionError) RawJson}
      (accepts : engine.Accepts node.store call resource action)
      (begins : call.Begins resource action node start)
      (ran : engine.run depth (action.handler call.key call.request.payload) start = (outcome, done))
      (obeys : Obeys (Resource.order? call.request.action action.flags call.key done.store outcome)
        (done.marked (.ended (resource.handlerFrame call.key call.request action))) last)
      (store : after.store = last.store)
      (history : after.history =
        .ended (resource.dispatchFrame call.key call.request action) :: last.history)
      (guards : node.guards.Agrees after.guards) :
      Decides engine depth call node
        (Resource.reply call.request.action call.key done.store outcome) after

namespace Engine

variable {engine : Engine} {depth : Nat} {call : Call} {resource : Resource} {action : Action}
  {node : Node}

/-- A call that names an action is dispatched under the lock of its object, if the lock is free, and gives back
    every lock that is taken on the way. -/
theorem Describes.ends_dispatch (describes : engine.Describes call resource action) (built : engine.Built)
    (sound : node.guards.Sound) (free : ∀ mode, ¬node.guards.Holds call.key.text mode)
    {post : Except (Halt EngineError) Response → Node → Prop}
    (runs : ∀ hold held, node.guards.take? call.key.text action.flags.mode = some (hold, held) →
      ∀ result last, resource.Concludes (engine.run depth) call.key call.request action
        ((node.marked (.began (resource.dispatchFrame call.key call.request action))).withTable .shared held)
        result last →
      ∀ left, node.guards.Agrees left → post result ((last.withTable .shared left).marked
        (.ended (resource.dispatchFrame call.key call.request action)))) :
    (resource.dispatch (engine.run depth) call.key call.request).Ends node post := by
  rw [Resource.dispatch_eq, describes.described,
    built.guards (mem_of_resource? describes.registered).1]
  dsimp only
  rw [ends_within]
  refine Ends.guarded sound (fun waits => ?_) fun hold held taken => ?_
  · have gets : (node.guards.take? call.key.text action.flags.mode).isSome = true :=
      (GuardTable.take?_isSome_iff sound).mpr ⟨free _, fun _ => free _⟩
    rw [show node.guards.take? call.key.text action.flags.mode = none from waits] at gets
    cases gets
  have both : ∀ start, (resource.holdDispatch (engine.run depth) call.key call.request action).Ends
      start fun result last => resource.Concludes (engine.run depth) call.key call.request action
        start result last ∧ GivesBack start last := fun start =>
    ⟨Resource.concludes_holdDispatch, GivesBack.framing.holdDispatch GivesBack.performed
      GivesBack.performed trivial (GivesBack.run built depth _) start⟩
  refine (both _).imp fun result last ⟨course, gives⟩ => ?_
  obtain ⟨kept, agrees⟩ := gives (GuardTable.Sound.take? taken sound)
  exact ⟨agrees, kept, fun left same _ => runs hold held taken result last course left same⟩

/-- A call that names an action goes on to the checks under the lock, if the lock is free. -/
theorem Describes.decides (describes : engine.Describes call resource action) (built : engine.Built)
    (calm : node.faults.Calm) (sound : node.guards.Sound)
    (free : ∀ mode, ¬node.guards.Holds call.key.text mode) :
    (resource.dispatch (engine.run depth) call.key call.request).Ends node
      (engine.Decides depth call node) := by
  refine describes.ends_dispatch built sound free fun hold held taken result last course left same => ?_
  have still : ((node.marked (.began (resource.dispatchFrame call.key call.request action))).withTable
      .shared held).faults.Calm := by rwa [faults_withTable]
  rcases course.closes (SamePlan.run engine depth) still with
    ⟨error, rfl, asked, refuses⟩ | ⟨outcome, done, handles, rfl, obeys⟩
  · refine .refused ?_ ⟨?_, same, ?_⟩
    · rw [store_withTable] at refuses
      exact describes.breaksFirst refuses
    · exact asked.store
    · obtain ⟨marks, told, idle⟩ := asked.history
      refine ⟨.ended (resource.dispatchFrame call.key call.request action) :: (marks ++
        [.began (resource.dispatchFrame call.key call.request action)]), ?_, fun mark member => ?_⟩
      · rw [List.cons_append, List.append_assoc]
        exact congrArg _ told
      · rcases List.mem_cons.mp member with rfl | member
        · exact .inr ⟨_, _, .inr rfl⟩
        · rcases List.mem_append.mp member with asking | opening
          · exact .inl (idle mark asking)
          · exact .inr ⟨_, _, .inl (List.mem_singleton.mp opening)⟩
  · obtain ⟨⟨mid, passed, ran⟩, admits, unused⟩ := handles
    obtain ⟨marks, told, idle⟩ := passed.history
    have begins : call.Begins resource action node
        (mid.marked (.began (resource.handlerFrame call.key call.request action))) := by
      refine ⟨passed.store, ?_, marks, idle, congrArg _ told⟩
      rw [show (mid.marked _).guards = held from passed.guards]
      exact GuardTable.holds_of_take? taken
    exact .handled ⟨describes, admits calm.honest, unused⟩ begins ran obeys rfl rfl same

/-- When the lock of its object is free and no call to the store goes wrong, a call runs its handler just
    if it breaks no rule: once, with the payload of the request, from the store that the call found. What
    follows is at most one order: a record is removed after a delete that succeeded, and edges are
    released after a create that failed without leaving a record. Otherwise the call is refused with the
    first rule that it breaks, and nothing has changed. -/
theorem call_decides (built : engine.Built) (depth : Nat) (call : Call) {node : Node}
    (calm : node.faults.Calm) (sound : node.guards.Sound)
    (free : ∀ mode, ¬node.guards.Holds call.key.text mode) :
    ((∃ resource action, engine.Accepts node.store call resource action) ↔
      ∀ error, ¬engine.Breaks node.store call error) ∧
    (engine.call (depth + 1) call).Ends node (engine.Decides depth call node) := by
  refine ⟨exists_accepts_iff, ?_⟩
  have unmoved : Unmoved node node := ⟨rfl, .refl _, [], rfl, by simp⟩
  simp only [Engine.call]
  cases registered : engine.resource? call.kind with
  | none => exact .refused ⟨.unregistered registered, fun _ _ => Nat.zero_le _⟩ unmoved
  | some resource =>
      cases described : resource.action? call.request.action with
      | none =>
          dsimp only
          rw [Resource.dispatch_eq, described]
          refine .refused ⟨.undescribed registered described, fun other breaks => ?_⟩ unmoved
          cases breaks with
          | unregistered unknown => simp [registered] at unknown
          | undescribed | taken | missing | foreign | used => simp [EngineError.turn]
      | some action =>
          have describes : engine.Describes call resource action := ⟨registered, described⟩
          exact describes.decides built calm sound free

theorem Decides.refused_of_breaks {result : Except (Halt EngineError) Response} {after : Node}
    {error : EngineError} (decides : engine.Decides depth call node result after)
    (breaks : engine.Breaks node.store call error) :
    ∃ first, engine.BreaksFirst node.store call first ∧ result = .error (.error first) ∧
      Unmoved node after := by
  cases decides with
  | refused first unmoved => exact ⟨_, first, rfl, unmoved⟩
  | handled accepts => exact absurd breaks accepts.not_breaks

end Engine

namespace Small

/-- A virtual machine that is still to be made relies on a disk. -/
def relied : Node where
  store := (engine.serve 9 .empty [.program (act "disk" "create" "a"),
    .program (reserve "vm" "a" (.done (.ok .null)) (.ok .null))]).store

/-- Deletes the disk, but takes it for a network. -/
def mistaken : Call := ⟨1, "space", "network", { action := Resource.deleteAction, object := "a" }⟩

/-- The rule about the kind comes before the one about what relies on the disk. -/
theorem mistaken_breaksFirst : engine.BreaksFirst relied.store mistaken
    (.objectInvalidType (object "a") "network" "disk") := by
  have describes : engine.Describes mistaken { resource "network" .shareable with guards := .shared }
      ⟨delete, .exclusive⟩ := ⟨rfl, rfl⟩
  have found : relied.store.record? (object "a") = some ⟨"disk", []⟩ := by decide +kernel
  exact describes.breaksFirst (.foreign rfl found (by decide))

end Small

/-- The deletion is refused with the rule about the kind. -/
theorem call_decides_mistaken :
    (Small.engine.Built ∧ Small.relied.faults.Calm ∧ Small.relied.guards.Sound ∧
      ∀ mode, ¬Small.relied.guards.Holds Small.mistaken.key.text mode) ∧
    Small.relied.store.mastersOf (Small.object "a") ≠ [] ∧
    (Small.engine.call 9 Small.mistaken).Ends Small.relied fun result after =>
      result = .error (.error (.objectInvalidType (Small.object "a") "network" "disk")) ∧
        after.store = Small.relied.store := by
  have calm : Small.relied.faults.Calm := FaultPlan.calm_none
  have sound : Small.relied.guards.Sound := GuardTable.sound_empty
  have free : ∀ mode, ¬Small.relied.guards.Holds Small.mistaken.key.text mode := by
    rintro mode ⟨entry, -, member⟩
    cases member
  refine ⟨⟨Small.engine_built, calm, sound, free⟩, by decide +kernel, ?_⟩
  refine (Engine.call_decides Small.engine_built 8 Small.mistaken calm sound free).2.imp ?_
  intro result after decides
  obtain ⟨first, broken, refused, unmoved⟩ :=
    decides.refused_of_breaks Small.mistaken_breaksFirst.breaks
  rw [refused, broken.unique Small.mistaken_breaksFirst]
  exact ⟨rfl, unmoved.store⟩

end Provision
