import Provision.Proofs.Dependency.Drain
import Provision.Proofs.Run.Twin

/-! # Tenants and spaces are apart

A call is made in one space of one tenant. Handlers that keep to the place of their object leave what is stored
for all other places alone, and what is stored there makes no difference to them: the call gives the same
result, and runs the same handlers with the same inputs.
-/

namespace Provision

open Run Node

def Call.place (call : Call) : TenantSpace := call.key.place

/-- All that a handler names, of its own accord and in scopes, is in the place of the object that it runs
    for. -/
def Engine.Secluded (engine : Engine) : Prop :=
  ∀ resource ∈ engine.resources, ∀ name action, resource.action? name = some action → ∀ key payload,
    (action.handler key payload).Confined (Deed.Within fun other => other.place = key.place)

/-! ## Other places -/

/-- A settled node stays settled, and nothing that is stored for other places changes. -/
def Stays (place : TenantSpace) (node after : Node) : Prop :=
  node.Settled → after.Settled ∧
    ∀ elsewhere, elsewhere ≠ place → node.store.AgreesOn elsewhere after.store

namespace Stays

variable {place : TenantSpace} {node after : Node} {order : StoreCall}

theorem of_store (store : after.store = node.store) (schedule : after.faults.schedule = node.faults.schedule) :
    Stays place node after := by
  intro settled
  refine ⟨⟨store ▸ settled.paired, store ▸ settled.sealed, fun operation n => ?_⟩, fun elsewhere _ => ?_⟩
  · rw [schedule]
    exact settled.calm operation n
  · exact store ▸ .refl elsewhere node.store

theorem performed (within : order.Within (·.place = place)) (done : Performed order node after) :
    Stays place node after := by
  intro settled
  refine ⟨⟨done.store ▸ settled.paired.after order, done.store ▸ settled.sealed.after within,
    fun operation n => ?_⟩, fun elsewhere apart => ?_⟩
  · rw [done.schedule]
    exact settled.calm operation n
  · exact done.store ▸ MemoryStore.agreesOn_after within settled.sealed apart

theorem lockless : Lockless (fun _ => True) (Stays place) where
  refl _ := of_store rfl rfl
  trans _ _ _ first second settled := by
    obtain ⟨between, before⟩ := first settled
    obtain ⟨last, rest⟩ := second between
    exact ⟨last, fun elsewhere apart => (before elsewhere apart).trans (rest elsewhere apart)⟩
  consulted asked := of_store asked.store asked.schedule
  began _ _ _ := of_store rfl rfl
  ended _ _ _ := of_store rfl rfl
  table _ _ _ := of_store store_withTable (by rw [faults_withTable])

end Stays

/-! ## Nodes between the calls -/

section Secluded

variable {engine : Engine} {place : TenantSpace} {before before' : List Mark}

theorem Engine.Secluded.confined (secluded : engine.Secluded) : ∀ resource ∈ engine.resources,
    ∀ name action, resource.action? name = some action → ∀ key payload, key.place = place →
      (action.handler key payload).Confined (Deed.Within fun other => other.place = place) :=
  fun resource member name action described key payload home =>
    home ▸ secluded resource member name action described key payload

variable (built : engine.Built) (secluded : engine.Secluded)

include built secluded

theorem Stays.call (depth : Nat) (call : Call) : Keeps (Stays call.place) (engine.call depth call) :=
  (lockless.running fun within => performed within).call built secluded.confined depth call rfl

/-- Between the calls no guard is out and no lock is held. -/
theorem Engine.Reached.settled {node : Node} (reached : engine.Reached node) :
    node.Settled ∧ node.guards.Sound ∧ GuardTable.empty.Agrees node.guards := by
  induction reached with
  | start =>
      exact ⟨⟨MemoryStore.paired_empty, MemoryStore.local_empty, FaultPlan.calm_none⟩,
        GuardTable.sound_empty, .refl _⟩
  | @call node depth call _ _ ih =>
      obtain ⟨settled, sound, free⟩ := ih
      obtain ⟨kept, agrees⟩ := GivesBack.call built depth call node sound
      exact ⟨(Stays.call built secluded depth call node settled).1, kept, free.trans agrees⟩

theorem Engine.Reached.twins {a b : Node} (reached : engine.Reached a) (reached' : engine.Reached b)
    (agrees : a.store.AgreesOn place b.store) : Twins place a.history b.history a b := by
  obtain ⟨settled, sound, free⟩ := reached.settled built secluded
  obtain ⟨settled', sound', free'⟩ := reached'.settled built secluded
  have alike := (GuardTable.Alike.refl GuardTable.sound_empty).agrees free sound free' sound'
  exact ⟨settled, settled', agrees, alike, [], rfl, rfl⟩

/-! ## The same place -/

theorem Engine.coupled_call (depth : Nat) (call : Call) (home : call.place = place) :
    Coupled (Twins place before before') (engine.call depth call) :=
  Coupled.running.call built secluded.confined depth call home

end Secluded

namespace Point

/-- Two points at which twins are to run the same rest of a body. -/
structure Twins (place : TenantSpace) (before before' : List Mark) (point point' : Point) : Prop where
  depth : point'.depth = point.depth
  rest : point'.rest = point.rest
  confined : point.rest.Confined (Deed.Within fun other => other.place = place)
  nodes : Provision.Twins place before before' point.node point'.node

variable {engine : Engine} {place : TenantSpace} {before before' : List Mark} {point point' start moment : Point}
  {frame : Frame} {frames : List Frame}

section Secluded

variable (built : engine.Built) (secluded : engine.Secluded)

include built secluded

/-- What is opened at one of the points is opened at the other, for the same. -/
theorem Opens.twin (opens : Opens engine point frame start) (twins : Twins place before before' point point') :
    ∃ start', Opens engine point' frame start' ∧ Twins place before before' start start' := by
  obtain ⟨depth, rest, node⟩ := point'
  obtain ⟨rfl, rfl, confined, nodes⟩ := twins
  have running : Running (fun key => key.place = place) fun body =>
      Coupled (Provision.Twins place before before') body := Coupled.running
  cases opens with
  | @handler depth call next a mid resource action hold held registered described taken passed =>
      have member := (Engine.mem_of_resource? registered).1
      have home : call.key.place = place := confined.1
      obtain ⟨name, flags, actions, guards⟩ := resource
      obtain rfl : guards = .shared := built.guards member
      obtain ⟨hold', held', taken', alike⟩ := nodes.alike.exists_take? taken
      obtain ⟨mid', passed', related⟩ :=
        ((running.demands.checkTarget home).twin _ _ ((nodes.marked _).withTable alike)).of_eq passed
      exact ⟨_, .handler registered described taken' passed', rfl, rfl,
        secluded.confined _ member _ action described _ _ home, related.marked _⟩
  | reservation resolved taken checked =>
      obtain ⟨⟨homeMaster, homeSlave⟩, inner, -⟩ := confined
      obtain ⟨looked', resolved', related⟩ := ((running.resolve homeSlave).twin _ _ nodes).of_eq resolved
      obtain ⟨hold', held', taken', alike⟩ := related.alike.exists_take? taken
      obtain ⟨mid', checked', last⟩ :=
        ((running.checkAndReserve homeMaster homeSlave).twin _ _ ((related.marked _).withTable alike)).of_eq checked
      exact ⟨_, .reservation resolved' taken' checked', rfl, rfl, inner, last.marked _⟩
  | release found taken =>
      obtain ⟨⟨-, homeSlave⟩, inner, -⟩ := confined
      obtain ⟨looked', found', related⟩ := ((running.resourceOf homeSlave).twin _ _ nodes).of_eq found
      obtain ⟨hold', held', taken', alike⟩ := related.alike.exists_take? taken
      exact ⟨_, .release found' taken', rfl, rfl, inner, ((related.marked _).withTable alike).marked _⟩

/-- From twins a run passes the same points. -/
theorem Passes.twin (passes : Passes engine point frames moment)
    (twins : Twins place before before' point point') :
    ∃ moment', Passes engine point' frames moment' ∧ Twins place before before' moment moment' := by
  induction passes generalizing point' with
  | here => exact ⟨point', .here _, twins⟩
  | inside opens _ ih =>
      obtain ⟨start', opens', begun⟩ := opens.twin built secluded twins
      obtain ⟨moment', passes', last⟩ := ih begun
      exact ⟨moment', .inside opens' passes', last⟩
  | @onward point moment rest after frames steps _ ih =>
      obtain ⟨depth, rest, node⟩ := point'
      obtain ⟨rfl, rfl, confined, nodes⟩ := twins
      have coupled : Coupled (Provision.Twins place before before')
          (point.rest.step engine (engine.call point.depth)) :=
        Coupled.running.program_step (engine.coupled_call built secluded _) confined
      obtain ⟨after', steps', related⟩ := (coupled.twin _ _ nodes).of_eq steps
      have goesOn : Twins place before before' ⟨point.depth, rest, after⟩ ⟨point.depth, rest, after'⟩ :=
        ⟨rfl, rfl, confined.step steps, related⟩
      obtain ⟨moment', passes', last⟩ := ih goesOn
      exact ⟨moment', .onward steps' passes', last⟩

end Secluded

end Point

/-! ## Both together -/

/-- In the run of a call from a node, a call gets to its handler: the run's own call in no frame, the nested ones
    in those of what they are nested in. The inner call tells the handler, by its kind and action, and what it
    is run with, by its object and payload. -/
def Engine.Invokes (engine : Engine) (depth : Nat) (call : Call) (node : Node) (frames : List Frame)
    (inner : Call) : Prop :=
  ∃ level next moment frame start,
    Point.Passes engine ⟨depth, .call call fun _ => .done (.ok .null), node⟩ frames
      ⟨level, .call inner next, moment⟩ ∧
    Point.Opens engine ⟨level, .call inner next, moment⟩ frame start

theorem Engine.Invokes.twin {engine : Engine} (built : engine.Built) (secluded : engine.Secluded) {depth : Nat}
    {call inner : Call} {a b : Node} {before before' : List Mark} {frames : List Frame}
    (invokes : engine.Invokes depth call a frames inner) (twins : Twins call.place before before' a b) :
    engine.Invokes depth call b frames inner := by
  obtain ⟨level, next, moment, frame, start, passes, opens⟩ := invokes
  have begins : Point.Twins call.place before before' ⟨depth, .call call fun _ => .done (.ok .null), a⟩
      ⟨depth, .call call fun _ => .done (.ok .null), b⟩ := ⟨rfl, rfl, ⟨rfl, fun _ => trivial⟩, twins⟩
  obtain ⟨⟨level', rest, moment'⟩, passes', there⟩ := passes.twin built secluded begins
  obtain ⟨start', opens', -⟩ := opens.twin built secluded there
  obtain rfl : level' = level := there.depth
  obtain rfl : rest = .call inner next := there.rest
  exact ⟨_, next, moment', frame, start', passes', opens'⟩

theorem Node.since_of_append {node earlier : Node} {marks : List Mark}
    (told : node.history = marks ++ earlier.history) : node.since earlier = marks.reverse := by
  simp [since, told]

/-- A call changes nothing that is stored for another tenant or another space. From two nodes that agree on what
    is stored for its own tenant and space, it gives the same result, does the same things in the same order, runs
    the same handlers with the same inputs, and leaves nodes that agree on it again. -/
theorem calls_isolated {engine : Engine} (built : engine.Built) (secluded : engine.Secluded) {node : Node}
    (reached : engine.Reached node) (depth : Nat) (call : Call) :
    (∀ elsewhere, elsewhere ≠ call.place →
      node.store.AgreesOn elsewhere (engine.call depth call node).2.store) ∧
    ∀ other, engine.Reached other → node.store.AgreesOn call.place other.store →
      (engine.call depth call other).1 = (engine.call depth call node).1 ∧
      (engine.call depth call other).2.since other = (engine.call depth call node).2.since node ∧
      (∀ frames inner, engine.Invokes depth call other frames inner ↔
        engine.Invokes depth call node frames inner) ∧
      (engine.call depth call node).2.store.AgreesOn call.place (engine.call depth call other).2.store := by
  have settled := (reached.settled built secluded).1
  refine ⟨(Stays.call built secluded depth call node settled).2, fun other reached' agrees => ?_⟩
  have twins := reached.twins built secluded reached' agrees
  obtain ⟨same, last⟩ := (engine.coupled_call built secluded depth call rfl).twin node other twins
  obtain ⟨marks, told, told'⟩ := last.history
  refine ⟨same, ?_, fun frames inner => ⟨fun invokes => ?_, fun invokes => ?_⟩, last.agrees⟩
  · rw [since_of_append told, since_of_append told']
  · exact invokes.twin built secluded twins.symm
  · exact invokes.twin built secluded twins

namespace Small

/-- Creating reserves the disk `a` of the same place, creates the disk `b` there meanwhile, and stores a
    record. -/
def lease : Handler := fun key _ =>
  .depend .add key (key.sibling "a")
    (.call ⟨key.user, key.space, "disk", { action := "create", object := "b" }⟩ fun _ => .done (.ok .null)) <|
    .orFail id fun _ => .store (.write key ⟨"lease", []⟩) fun _ => .done (.ok .null)

def leasing : Resource where
  name := "lease"
  flags := .exclusive
  actions := [("create", ⟨lease, .create⟩)]

/-- Disks, networks, and leases of a disk. -/
def letting : Engine where
  resources := engine.resources ++ [{ leasing with guards := .shared }]

theorem letting_built : letting.Built := by
  have described : ({ name := "lease", flags := .exclusive } : Resource).withAction "create" lease .create =
      .ok leasing := rfl
  exact .withResource engine_built (.withAction (.new "lease" .exclusive) described) rfl

theorem letting_secluded : letting.Secluded := by
  intro resource member name action described key payload
  have listed := Resource.mem_of_action? described
  simp only [letting, engine, List.map_cons, List.map_nil, List.cons_append, List.nil_append, List.mem_cons,
    List.not_mem_nil, or_false] at member
  rcases member with rfl | rfl | rfl <;>
    simp only [Small.resource, leasing, List.mem_cons, Prod.mk.injEq, List.not_mem_nil, or_false] at listed
  · rcases listed with ⟨-, rfl⟩ | ⟨-, rfl⟩
    · exact ⟨rfl, fun _ => trivial⟩
    · exact trivial
  · rcases listed with ⟨-, rfl⟩ | ⟨-, rfl⟩
    · exact ⟨rfl, fun _ => trivial⟩
    · exact trivial
  · obtain ⟨-, rfl⟩ := listed
    refine ⟨⟨rfl, rfl⟩, ⟨rfl, fun _ => trivial⟩, fun outcome => ?_⟩
    cases outcome with
    | error => exact trivial
    | ok => exact ⟨rfl, fun _ => trivial⟩

/-- One tenant has a disk. -/
def quiet : Node := (letting.call 1 (creation "disk" "a") .empty).2

/-- The creation of a disk of the same name, in a space of the same name, by another tenant. -/
def neighbour : Call := { creation "disk" "a" with user := 2 }

/-- Both tenants have a disk. -/
def busy : Node := (letting.call 1 neighbour quiet).2

theorem quiet_reached : letting.Reached quiet := by
  have created : (letting.call 1 (creation "disk" "a") .empty).1 = .ok { payload := some .null } := by
    decide +kernel
  refine .call .start ?_
  rw [created]
  trivial

theorem busy_reached : letting.Reached busy := by
  have created : (letting.call 1 neighbour quiet).1 = .ok { payload := some .null } := by decide +kernel
  refine .call quiet_reached ?_
  rw [created]
  trivial

end Small

/-- To lease the disk is the same whether the other tenant has one too, and the other one's is left alone. -/
theorem calls_isolated_lease :
    (Small.letting.Built ∧ Small.letting.Secluded ∧ Small.letting.Reached Small.quiet ∧
      Small.letting.Reached Small.busy ∧
      Small.quiet.store.AgreesOn (Small.creation "lease" "vm").place Small.busy.store) ∧
    (Small.letting.call 2 (Small.creation "lease" "vm") Small.busy).1 = .ok { payload := some .null } ∧
    (∀ frames inner, Small.letting.Invokes 2 (Small.creation "lease" "vm") Small.busy frames inner ↔
      Small.letting.Invokes 2 (Small.creation "lease" "vm") Small.quiet frames inner) ∧
    (Small.letting.call 2 (Small.creation "lease" "vm") Small.busy).2.store.record? ⟨2, "space", "a"⟩ =
      some ⟨"disk", []⟩ := by
  have agrees : Small.quiet.store.AgreesOn (Small.creation "lease" "vm").place Small.busy.store :=
    (calls_isolated Small.letting_built Small.letting_secluded Small.quiet_reached 1 Small.neighbour).1 _
      (by decide)
  obtain ⟨same, -, handlers, -⟩ := (calls_isolated Small.letting_built Small.letting_secluded
    Small.quiet_reached 2 (Small.creation "lease" "vm")).2 Small.busy Small.busy_reached agrees
  have leased : (Small.letting.call 2 (Small.creation "lease" "vm") Small.quiet).1 =
      .ok { payload := some .null } := by decide +kernel
  have others := (calls_isolated Small.letting_built Small.letting_secluded Small.busy_reached 2
    (Small.creation "lease" "vm")).1 ⟨2, "space"⟩ (by decide)
  have stored : Small.busy.store.record? ⟨2, "space", "a"⟩ = some ⟨"disk", []⟩ := by decide +kernel
  exact ⟨⟨Small.letting_built, Small.letting_secluded, Small.quiet_reached, Small.busy_reached, agrees⟩,
    same.trans leased, handlers, (others.records _ rfl).trans stored⟩

end Provision
