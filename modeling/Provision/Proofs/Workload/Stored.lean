import Provision.Proofs.Engine.Decision
import Provision.Proofs.Json.Typed
import Provision.Proofs.Workload.State

/-! # States are read back

What is stored as the state of an object is given back as it was, whether it is stored by a handler itself or
by an action that takes it as its payload. Only a state is lost in which an untyped part has an object that is
taken for the value of a text.
-/

namespace Provision

open Run Node

/-! ## Calls that get to their handler -/

namespace Engine

variable {engine : Engine} {call : Call} {resource : Resource} {action : Action} {node : Node}

/-- No call to the store goes wrong, and nobody holds a lock of the object. -/
structure Unlocked (key : ObjectKey) (node : Node) : Prop where
  calm : node.faults.Calm
  sound : node.guards.Sound
  free : ∀ mode, ¬node.guards.Holds key.text mode

theorem unlocked_after {key : ObjectKey} (unlocked : Unlocked key node) (built : engine.Built) (depth : Nat)
    (call : Call) : Unlocked key (engine.call depth call node).2 := by
  have upheld : Upheld engine (fun _ => True) (fun _ _ => True) fun _ => SamePlan :=
    SamePlan.lockless.upheld Performed.schedule
  have planned : Keeps SamePlan (engine.call depth call) :=
    upheld.call (fun _ _ => trivial) (fun resource _ => resource.confined_of_all fun _ _ => trivial) depth
      .caller call
  obtain ⟨sound, agrees⟩ := GivesBack.call built depth call node unlocked.sound
  refine ⟨(planned node).calm unlocked.calm, sound, fun mode holds => ?_⟩
  exact unlocked.free mode (agrees.holds_iff.mp holds)

/-- If a call gets to a handler that ends with a value, it is answered with the value, and the store is as
    the handler has left it. -/
theorem ends_call_of_accepted (built : engine.Built) (unlocked : Unlocked call.key node)
    (accepts : engine.Accepts node.store call resource action)
    (other : call.request.action ≠ Resource.deleteAction) (depth : Nat) :
    (engine.call (depth + 1) call).Ends node fun result after => ∃ start, start.store = node.store ∧
      start.faults.Calm ∧ ∀ output done,
        engine.run depth (action.handler call.key call.request.payload) start = (.ok output, done) →
        result = .ok { payload := some output } ∧ after.store = done.store := by
  simp only [Engine.call, accepts.registered]
  refine accepts.ends_dispatch built unlocked.sound unlocked.free fun hold held _ result last course left _ => ?_
  generalize opened : (node.marked (.began (resource.dispatchFrame call.key call.request action))).withTable
    .shared held = inside at course
  have store : inside.store = node.store := by rw [← opened, store_withTable]; rfl
  have calm : inside.faults.Calm := by rw [← opened, faults_withTable]; exact unlocked.calm
  rcases course.closes (SamePlan.run engine depth) calm with
    ⟨error, rfl, asked, refuses⟩ | ⟨outcome, done, handles, rfl, obeys⟩
  · rw [store] at refuses
    exact absurd accepts.toAccepts refuses.not_accepts
  · obtain ⟨⟨mid, passed, ran⟩, -, -⟩ := handles
    refine ⟨mid.marked (.began (resource.handlerFrame call.key call.request action)),
      passed.store.trans store, passed.calm_iff.mpr calm, fun output done' ran' => ?_⟩
    cases ran.symm.trans ran'
    have none : Resource.order? call.request.action action.flags call.key done.store (.ok output) = none := by
      simp [Resource.order?, other]
    rw [none] at obeys
    have asked : Consulted (done.marked (.ended (resource.handlerFrame call.key call.request action))) last :=
      obeys
    refine ⟨by simp [Resource.reply, caught, other], ?_⟩
    exact store_withTable.trans asked.store

end Engine

namespace Workload

open Json

variable {workload : Workload} {key : ObjectKey} {state : Value}

/-- The handler that takes a state as its payload, stores it, and ends with an output. -/
def creating (workload : Workload) (output : Value → RawJson) : Handler :=
  .typed workload.form fun key state =>
    workload.save key state (Program.orFail .engine fun () => .done (.ok (output state)))

/-- The handler that gives the state of its object. -/
def giving (workload : Workload) (input : Form) : Handler :=
  .typed input fun key _ =>
    workload.current key (Program.orFail .engine fun state => .done (.ok (.ofValue state)))

/-- The state of an object is stored, and nothing else has changed. -/
structure Recorded (workload : Workload) (key : ObjectKey) (state : Value) (before after : MemoryStore) :
    Prop where
  own : after.record? key = some ⟨workload.kind, state.print⟩
  others : ∀ other, other ≠ key → after.record? other = before.record? other
  slaves : after.slaves = before.slaves
  masters : after.masters = before.masters

theorem recorded_write (workload : Workload) (key : ObjectKey) (state : Value) (before : MemoryStore) :
    workload.Recorded key state before (before.write key ⟨workload.kind, state.print⟩) := by
  refine ⟨?_, fun other different => ?_, rfl, rfl⟩
  · simp [MemoryStore.write, MemoryStore.record?]
  · simp [MemoryStore.write, MemoryStore.record?, Std.ExtTreeMap.getElem?_insert, different.symm]

/-- What is read of a state that was stored is the state, just if no object in an untyped part of it is taken
    for the value of a text. -/
theorem reading_eq_ok_iff (type : workload.form.Storable) (holds : workload.form.Holds Value.Untyped state)
    (plain : state.Plain nestingLimit) {store : MemoryStore}
    (stored : store.record? key = some ⟨workload.kind, state.print⟩) :
    workload.reading key store = .ok state ↔ workload.form.Holds Value.Clear state := by
  rw [← type.decode_print_iff holds plain, reading, stored]
  dsimp only
  rw [if_pos rfl, Form.decodeText]
  cases workload.form.decode state.print <;> simp [Except.mapError]

/-- An engine with an action of a workload that creates objects with a state, and one that gives the state. -/
structure Offers (workload : Workload) (engine : Engine) (create get : String) (output : Value → RawJson)
    (input : Form) : Prop where
  built : engine.Built
  actions : ∃ resource created given, engine.resource? workload.kind = some resource ∧
    resource.action? create = some ⟨workload.creating output, created⟩ ∧ created.requiresNew = true ∧
    resource.action? get = some ⟨workload.giving input, given⟩ ∧ given.requiresNew = false
  create_other : create ≠ Resource.deleteAction
  get_other : get ≠ Resource.deleteAction

/-- A call of an action of the workload on an object. -/
def callOn (workload : Workload) (key : ObjectKey) (action : String) (payload : RawJson) : Call :=
  ⟨key.user, key.space, workload.kind, ⟨action, key.object, payload⟩⟩

/-- An action that may be called on the object as it is gets to its handler, and is answered with the value that
    the handler ends with. -/
theorem answers_callOn {engine : Engine} {node : Node} {payload : RawJson} {name : String} {resource : Resource}
    {action : Action} (built : engine.Built)
    (unlocked : Engine.Unlocked key node) (registered : engine.resource? workload.kind = some resource)
    (described : resource.action? name = some action) (other : name ≠ Resource.deleteAction)
    (fresh : node.store.hasRecord key = !action.flags.requiresNew)
    (own : ∀ record, node.store.record? key = some record → record.kind = workload.kind) (depth : Nat) :
    ∃ start, start.store = node.store ∧ start.faults.Calm ∧ ∀ output done,
      engine.run depth (action.handler key payload) start = (.ok output, done) →
      ∃ last, engine.call (depth + 1) (workload.callOn key name payload) node =
        (.ok { payload := some output }, last) ∧ last.store = done.store := by
  have accepts : engine.Accepts node.store (workload.callOn key name payload) resource action := by
    refine ⟨⟨registered, described⟩, ⟨fresh, fun record found => ?_⟩, fun deletes => absurd deletes other⟩
    exact (own record found).trans (Engine.mem_of_resource? registered).2.symm
  have free : Engine.Unlocked (workload.callOn key name payload).key node := unlocked
  obtain ⟨start, same, calm, answers⟩ := Engine.ends_call_of_accepted built free accepts other depth
  refine ⟨start, same, calm, fun output done ran => ?_⟩
  obtain ⟨answered, kept⟩ := answers output done ran
  exact ⟨_, Prod.ext answered rfl, kept⟩

namespace Offers

variable {engine : Engine} {create get : String} {output : Value → RawJson} {input : Form} {node : Node}
  {payload : RawJson}

theorem creates (offers : workload.Offers engine create get output input)
    (encodable : workload.encodable = true) (unlocked : Engine.Unlocked key node)
    (absent : node.store.record? key = none) (accepted : payload.decode workload.form = .ok state)
    (depth : Nat) : ∃ created, engine.call (depth + 1) (workload.callOn key create payload) node =
        (.ok { payload := some (output state) }, created) ∧
      workload.Recorded key state node.store created.store := by
  obtain ⟨resource, created, -, registered, described, new, -⟩ := offers.actions
  have missing : node.store.hasRecord key = false := by simp [MemoryStore.hasRecord_eq, absent]
  obtain ⟨start, same, calm, answers⟩ := answers_callOn offers.built unlocked registered described
    offers.create_other (by simp [missing, new])
    (fun record found => by cases absent.symm.trans found) depth
  obtain ⟨after, written, -, saves⟩ := workload.run_save encodable calm key state
  have ran : engine.run depth (workload.creating output key payload) start = (.ok (output state), after) := by
    rw [creating, Handler.typed, accepted]
    exact saves engine depth _
  obtain ⟨last, answered, kept⟩ := answers _ _ ran
  refine ⟨last, answered, ?_⟩
  rw [kept, written, same]
  exact workload.recorded_write key state node.store

theorem gives (offers : workload.Offers engine create get output input) (unlocked : Engine.Unlocked key node)
    {record : Record} (found : node.store.record? key = some record) (own : record.kind = workload.kind)
    (read : workload.reading key node.store = .ok state) {value : Value}
    (accepted : payload.decode input = .ok value) (depth : Nat) :
    ∃ last, engine.call (depth + 1) (workload.callOn key get payload) node =
        (.ok { payload := some (.ofValue state) }, last) ∧ last.store = node.store := by
  obtain ⟨resource, -, given, registered, -, -, described, old⟩ := offers.actions
  have present : node.store.hasRecord key = true := by simp [MemoryStore.hasRecord_eq, found]
  obtain ⟨start, same, calm, answers⟩ := answers_callOn offers.built unlocked registered described
    offers.get_other (by simp [present, old])
    (fun other stored => by cases found.symm.trans stored; exact own) depth
  obtain ⟨after, unchanged, -, reads⟩ := workload.run_current calm key
  have ran : engine.run depth (workload.giving input key payload) start = (.ok (.ofValue state), after) := by
    rw [giving, Handler.typed, accepted]
    refine (reads engine depth _).trans ?_
    rw [same, read]
    rfl
  obtain ⟨last, answered, kept⟩ := answers _ _ ran
  exact ⟨last, answered, kept.trans (unchanged.trans same)⟩

end Offers

end Workload

open Json in
/-- Where no call to the store goes wrong, a state of a type of integers, booleans, strings, untyped parts, and
    optional values and lists of such, whose untyped parts have no numbers but integers and are not nested too
    deeply, is read back by whoever has stored it as exactly that state, and nothing but the record of its
    object has changed. If it was stored by an action that takes it as its payload and creates the object, an
    action that gives the state answers with a text that is decoded as the state, and that is how the state is
    written again. The one exception: a state is never read back in which an object of an untyped part has the
    member in front that marks the value of a text. -/
theorem stored_state_read_back {workload : Workload} (encodable : workload.encodable = true)
    (type : workload.form.Storable) :
    (∀ (key : ObjectKey) (state : Value) (node : Node), node.faults.Calm →
      workload.form.Holds Value.Untyped state → state.Plain nestingLimit →
      ∃ after read, workload.Recorded key state node.store after.store ∧
        (read = .ok state ↔ workload.form.Holds Value.Clear state) ∧
        ∀ (engine : Engine) depth (next : Except EngineError Unit → Except EngineError Value → Program),
          engine.run depth (workload.save key state fun saved => workload.current key (next saved)) node =
            engine.run depth (next (.ok ()) read) after) ∧
    ∀ (engine : Engine) (create get : String) (output : Value → RawJson) (input : Form) (key : ObjectKey)
      (payload asked : RawJson) (state value : Value) (node : Node) depth,
      workload.Offers engine create get output input → Engine.Unlocked key node →
      node.store.record? key = none → payload.decode workload.form = .ok state → state.Plain nestingLimit →
      asked.decode input = .ok value →
      ∃ created, engine.call (depth + 1) (workload.callOn key create payload) node =
          (.ok { payload := some (output state) }, created) ∧
        workload.Recorded key state node.store created.store ∧
        (workload.form.Holds Value.Clear state →
          ∃ text last, engine.call (depth + 1) (workload.callOn key get asked) created =
              (.ok { payload := some text }, last) ∧ last.store = created.store ∧
            text.decode workload.form = .ok state ∧ RawJson.ofValue state = text) := by
  constructor
  · intro key state node calm holds plain
    obtain ⟨mid, written, calm', saves⟩ := workload.run_save encodable calm key state
    obtain ⟨after, same, -, reads⟩ := workload.run_current calm' key
    have recorded := workload.recorded_write key state node.store
    rw [← written] at recorded
    refine ⟨after, workload.reading key mid.store, same ▸ recorded,
      Workload.reading_eq_ok_iff type holds plain recorded.own, fun engine depth next => ?_⟩
    rw [saves, reads]
  · intro engine create get output input key payload asked state value node depth offers unlocked absent
      accepted plain accepted'
    obtain ⟨created, ran, recorded⟩ := offers.creates encodable unlocked absent accepted depth
    refine ⟨created, ran, recorded, fun clear => ?_⟩
    have holds := type.accepted (Form.decode?_of_decodeText accepted)
    have free : Engine.Unlocked key created := by
      have after := Engine.unlocked_after unlocked offers.built (depth + 1) (workload.callOn key create payload)
      rwa [ran] at after
    have read := (Workload.reading_eq_ok_iff type holds plain recorded.own).mpr clear
    obtain ⟨last, gave, unchanged⟩ := offers.gives free recorded.own rfl read accepted' depth
    refine ⟨.ofValue state, last, gave, unchanged, ?_, rfl⟩
    have decoded := (type.decode_print_iff holds plain).mpr clear
    rw [RawJson.decode, Form.decodeText, RawJson.ofValue, decoded]
    rfl

namespace Small

open Json

/-- Crates hold a number of things, and notes of any type. -/
def crates : Workload where
  kind := "crate"
  form := .struct "Crate" [⟨"count", .u8, none⟩, ⟨"label", .option .string, none⟩, ⟨"notes", .any, none⟩]

/-- The state of a crate without a label. -/
def crateState : Value :=
  .object [("count", .int 3), ("label", .null), ("notes", .object [("a", .array [.string "x"])])]

def crate : Resource where
  name := "crate"
  flags := .shareable
  actions := [("create", ⟨crates.creating fun _ => .null, .create⟩),
    ("get", ⟨crates.giving (.plain .unit), .empty⟩)]

def crateEngine : Engine where
  resources := [{ crate with guards := .shared }]

theorem crateEngine_built : crateEngine.Built := by
  let begun : Resource := { crate with actions := [("create", ⟨crates.creating fun _ => .null, .create⟩)] }
  have first : ({ name := "crate", flags := .shareable } : Resource).withAction "create"
      (crates.creating fun _ => .null) .create = .ok begun := rfl
  have second : begun.withAction "get" (crates.giving (.plain .unit)) .empty = .ok crate := rfl
  exact .withResource .empty (.withAction (.withAction (.new "crate" .shareable) first) second) rfl

theorem crates_offers : crates.Offers crateEngine "create" "get" (fun _ => .null) (.plain .unit) where
  built := crateEngine_built
  actions := ⟨_, .create, .empty, rfl, rfl, rfl, rfl, rfl⟩
  create_other := by decide
  get_other := by decide

theorem crates_storable : crates.form.Storable := by
  refine .struct (by decide) (fun field member => ?_) fun field member value default => ?_
  · simp only [List.mem_cons, List.not_mem_nil, or_false] at member
    rcases member with rfl | rfl | rfl
    · exact .int "u8" ⟨by decide, by decide⟩ ⟨by decide, by decide⟩
    · exact .option .string rfl
    · exact .any
  · simp only [List.mem_cons, List.not_mem_nil, or_false] at member
    rcases member with rfl | rfl | rfl <;> cases default

theorem crateState_holds {P : Value → Prop} (holds : P (.object [("a", .array [.string "x"])])) :
    crates.form.Holds P crateState :=
  .struct (.cons ⟨rfl, .int (by decide) (by decide)⟩ (.cons ⟨rfl, .none⟩ (.cons ⟨rfl, .any holds⟩ .nil)))

theorem crateState_untyped : crates.form.Holds Value.Untyped crateState := by
  refine crateState_holds (.object (List.pairwise_singleton _ _) fun member present => ?_)
  rw [List.mem_singleton.mp present]
  refine .array fun item inside => ?_
  rw [List.mem_singleton.mp inside]
  exact .string "x"

theorem crateState_clear : crates.form.Holds Value.Clear crateState := by
  refine crateState_holds (.object (by decide +kernel) fun member present => ?_)
  rw [List.mem_singleton.mp present]
  refine .array fun item inside => ?_
  rw [List.mem_singleton.mp inside]
  exact .string "x"

theorem crateState_plain : crateState.Plain nestingLimit := by
  have notes : Value.Plain 2 (.object [("a", .array [.string "x"])]) := by
    refine .object fun member present => ?_
    rw [List.mem_singleton.mp present]
    refine .array fun item inside => ?_
    rw [List.mem_singleton.mp inside]
    exact .string "x"
  have state : Value.Plain 3 crateState := by
    refine .object fun member present => ?_
    simp only [List.mem_cons, List.not_mem_nil, or_false] at present
    rcases present with rfl | rfl | rfl
    · exact .int 3
    · exact .null
    · exact notes
  exact state.mono (by decide)

theorem empty_unlocked (key : ObjectKey) : Engine.Unlocked key .empty where
  calm := FaultPlan.calm_none
  sound := GuardTable.sound_empty
  free := by
    rintro mode ⟨entry, -, member⟩
    cases member

/-- Boxes hold a value of any type. -/
def boxes : Workload where
  kind := "box"
  form := .plain .any

/-- A value in which the member stands in front that marks the value of a text. -/
def marked : Value := .object [(embeddingName, .int 2), ("a", .int 1)]

theorem marked_untyped : marked.Untyped := by
  refine .object (List.pairwise_pair.mpr (by decide +kernel)) fun member present => ?_
  simp only [List.mem_cons, List.not_mem_nil, or_false] at present
  rcases present with rfl | rfl <;> exact .int ⟨by decide, by decide⟩

theorem marked_plain : marked.Plain nestingLimit := by
  have shallow : Value.Plain 1 marked := by
    refine .object fun member present => ?_
    simp only [List.mem_cons, List.not_mem_nil, or_false] at present
    rcases present with rfl | rfl <;> exact .int _
  exact shallow.mono (by decide)

/-- Stores the state of a box, and gives what is read of it. -/
def storing (state : Value) : Program :=
  boxes.save (object "a") state fun _ =>
    boxes.current (object "a") (Program.orFail .engine fun state => .done (.ok (.ofValue state)))

end Small

open Json in
/-- A payload is accepted as the state of a box, and the state is stored, but refused when it is read. -/
theorem marked_state_lost :
    (Small.boxes.form.Storable ∧ Small.boxes.form.Holds Value.Untyped Small.marked ∧
      Small.marked.Plain nestingLimit) ∧
    (Small.boxes.form.decode?
        (Text.bytes "\x7b\"a\":1,\"$serde_json::private::RawValue\":2\x7d")).map Value.print =
      some Small.marked.print ∧
    (Small.engine.run 9 (Small.storing Small.marked) .empty).1 =
      .error (.error (.engine (.decode (Small.object "a") "box"
        "invalid type: integer `2`, expected raw value at line 1 column 35"))) :=
  ⟨⟨.plain .any, .plain (.any Small.marked_untyped), Small.marked_plain⟩, by decide +kernel, by decide +kernel⟩

open Json in
/-- The general statement for a crate: its state is read back by whoever has stored it, and a crate that is
    created with it as the payload gives it back. -/
theorem stored_state_read_back_crate :
    (Small.crates.encodable = true ∧ Small.crates.form.Storable ∧ Node.empty.faults.Calm ∧
      Small.crates.form.Holds Value.Untyped Small.crateState ∧ Small.crateState.Plain nestingLimit ∧
      Small.crates.Offers Small.crateEngine "create" "get" (fun _ => .null) (.plain .unit) ∧
      Engine.Unlocked (Small.object "a") .empty ∧ Node.empty.store.record? (Small.object "a") = none ∧
      (RawJson.ofValue Small.crateState).decode Small.crates.form = .ok Small.crateState ∧
      RawJson.null.decode (.plain .unit) = .ok .null) ∧
    (∃ after, Small.crates.Recorded (Small.object "a") Small.crateState .empty after.store ∧
      ∀ next : Except EngineError Unit → Except EngineError Value → Program,
        Small.crateEngine.run 9 (Small.crates.save (Small.object "a") Small.crateState fun saved =>
          Small.crates.current (Small.object "a") (next saved)) .empty =
        Small.crateEngine.run 9 (next (.ok ()) (.ok Small.crateState)) after) ∧
    ∃ created text last,
      Small.crateEngine.call 9
        (Small.crates.callOn (Small.object "a") "create" (.ofValue Small.crateState)) .empty =
          (.ok { payload := some .null }, created) ∧
      Small.crateEngine.call 9 (Small.crates.callOn (Small.object "a") "get" .null) created =
        (.ok { payload := some text }, last) ∧
      text.text = Text.bytes "\x7b\"count\":3,\"label\":null,\"notes\":\x7b\"a\":[\"x\"]\x7d\x7d" := by
  have calm : Node.empty.faults.Calm := FaultPlan.calm_none
  have unlocked := Small.empty_unlocked (Small.object "a")
  have accepted : (RawJson.ofValue Small.crateState).decode Small.crates.form = .ok Small.crateState := by
    have decoded := (Small.crates_storable.decode_print_iff Small.crateState_untyped Small.crateState_plain).mpr
      Small.crateState_clear
    rw [RawJson.decode, Form.decodeText, RawJson.ofValue, decoded]
    rfl
  obtain ⟨saves, calls⟩ := @stored_state_read_back Small.crates rfl Small.crates_storable
  refine ⟨⟨rfl, Small.crates_storable, calm, Small.crateState_untyped, Small.crateState_plain,
    Small.crates_offers, unlocked, rfl, accepted, rfl⟩, ?_, ?_⟩
  · obtain ⟨after, read, recorded, exact, runs⟩ :=
      saves (Small.object "a") Small.crateState .empty calm Small.crateState_untyped Small.crateState_plain
    refine ⟨after, recorded, fun next => ?_⟩
    rw [runs, exact.mpr Small.crateState_clear]
  · obtain ⟨created, ran, -, gives⟩ := calls Small.crateEngine "create" "get" (fun _ => .null) (.plain .unit)
      (Small.object "a") (.ofValue Small.crateState) .null Small.crateState .null .empty 8 Small.crates_offers
      unlocked rfl accepted Small.crateState_plain rfl
    obtain ⟨text, last, gave, -, -, written⟩ := gives Small.crateState_clear
    exact ⟨created, text, last, ran, gave, by rw [← written]; decide +kernel⟩

end Provision
