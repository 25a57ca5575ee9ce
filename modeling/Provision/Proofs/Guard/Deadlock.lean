import Mathlib.Data.Fintype.Card
import Mathlib.Data.Set.Finite.Basic
import Provision.Proofs.Guard.Traffic

/-! # Reservations that wait for each other

Callers are served in any order. Each holds the lock of its object while it asks for the locks of others, one
at a time. A caller waits just if another caller holds the lock that it needs next. That all of them wait can
only come from circles of callers of which each works on its object alone and asks for the object of the next
one; and such a circle, once it is closed, is never opened again.

What is exact here is so for a lock that is granted for reading whenever no writer holds it. Where readers wait
behind waiting writers as well, as with parking_lot's task-fair `read()`, callers can wait for each other in
more ways; the circles of holders are among them.
-/

namespace Provision

open Run Node Relation

/-! ## Circles -/

section Circles

variable {α : Type} {R S : α → α → Prop} {a b : α}

/-- Where it always goes on among finitely many things, it goes round in a circle in the end. -/
theorem exists_circle [Finite α] (goes : ∀ b, ReflTransGen R a b → ∃ c, R b c) :
    ∃ b, ReflTransGen R a b ∧ TransGen R b b := by
  by_contra none'
  let beyond (b c : { b // ReflTransGen R a b }) : Prop := TransGen R c b
  have : IsTrans _ beyond := ⟨fun _ _ _ first second => second.trans first⟩
  have : Std.Irrefl beyond := ⟨fun b round => none' ⟨b, b.2, round⟩⟩
  obtain ⟨last, -, final⟩ :=
    (Finite.wellFounded_of_trans_of_irrefl beyond).has_min Set.univ ⟨⟨a, .refl⟩, trivial⟩
  obtain ⟨next, more⟩ := goes last last.2
  exact final ⟨next, last.2.tail more⟩ trivial (.single more)

/-- A step of a circle has a step before it and one after it. -/
theorem circle_of_circle (round : TransGen R a a)
    (steps : ∀ b c, (∃ before, R before b) → R b c → (∃ after, R c after) → S b c) : TransGen S a a := by
  have first : ∃ before, R before a := by
    obtain ⟨before, -, last⟩ := TransGen.tail'_iff.mp round
    exact ⟨before, last⟩
  have path : ∀ b, TransGen R a b → (∃ after, R b after) → TransGen S a b := by
    intro b path
    induction path with
    | single step => exact fun after => .single (steps _ _ first step after)
    | @tail b c path step ih =>
        intro after
        obtain ⟨before, -, last⟩ := TransGen.tail'_iff.mp path
        exact (ih ⟨c, step⟩).tail (steps b c ⟨before, last⟩ step after)
  obtain ⟨after, next, -⟩ := TransGen.head'_iff.mp round
  exact path a round ⟨after, next⟩

end Circles

/-! ## What one step does to the locks -/

namespace Node

variable {ε α : Type} {node start : Node} {frame : Frame} {lock : Nat} {locks : Multiset (String × Hold)}

theorem enter?_accounts (entered : node.enter? frame = some (lock, start))
    (accounts : node.guards.AccountsFor locks) :
    start.guards.AccountsFor ((frame.object.text, ⟨lock, frame.mode⟩) ::ₘ locks) := by
  obtain ⟨⟨hold, held⟩, taken, same⟩ := Option.map_eq_some_iff.mp entered
  cases same
  have hold_eq : (⟨hold.lock, frame.mode⟩ : Hold) = hold := by rw [GuardTable.take?_hold taken]
  rw [hold_eq]
  exact accounts.take taken

theorem leave_accounts (frame : Frame) (result : Except (Halt ε) α)
    (accounts : node.guards.AccountsFor ((frame.object.text, ⟨lock, frame.mode⟩) ::ₘ locks)) :
    (node.leave frame lock result).2.guards.AccountsFor locks := by
  obtain ⟨left, leaves, kept⟩ := accounts.leave
  rw [leave, leaves]
  exact kept

end Node

namespace Caller

variable {engine : Engine} (caller : Caller engine) {lock : Nat} {node after : Node}

theorem guards_conclude (body : Run ActionError RawJson) (same : (body node).2.guards = node.guards) :
    (caller.conclude body node).2.guards = node.guards := by
  have ends : (caller.conclude body).Ends node fun _ after => after.guards = node.guards := by
    have begins : (attempt (ensuring body (·.marked (.ended (caller.resource.handlerFrame caller.key
        caller.call.request caller.action)))) : Run EngineError _).Ends node fun _ after =>
          after.guards = node.guards := ends_attempt.mpr same
    have asking : Asking (fun _ => True) fun body => Keeps (fun node after => after.guards = node.guards) body :=
      framing_guards.asking fun _ done => done.guards
    refine begins.bind (fun outcome mid kept => ?_) fun _ _ kept => kept
    cases outcome with
    | ok output => exact (asking.demands.afterSuccess trivial mid).imp fun _ _ same => same.trans kept
    | error error => exact (asking.demands.afterFailure trivial mid).imp fun _ _ same => same.trans kept
  exact ends

/-- In its handler, and on the way out of it, a caller holds just the lock of its object. -/
theorem resume_locks (lock : Nat) (next : Outcome → Reservations caller.key)
    (result : Except (Halt ActionError) RawJson) (node : Node) :
    (caller.resume lock next result node).2.guards = node.guards ∧
      (caller.resume lock next result node).1.locks caller.mode =
        {(caller.key.text, ⟨lock, caller.mode⟩)} := by
  rw [resume]
  split
  next => exact ⟨rfl, rfl⟩
  next halt _ => exact ⟨caller.guards_conclude _ rfl, rfl⟩

variable {stage stage' : Stage caller.key} {others : Multiset (String × Hold)}

/-- The table still accounts for the locks of all, if those of one caller are what its stage says. -/
theorem advance_accounts (steps : caller.advance node stage = some (stage', after))
    (accounts : node.guards.AccountsFor (stage.locks caller.mode + others)) :
    after.guards.AccountsFor (stage'.locks caller.mode + others) := by
  cases stage with
  | ready =>
      simp only [advance, Option.map_eq_some_iff, Prod.mk.injEq] at steps
      obtain ⟨⟨lock, start⟩, entered, rfl, rfl⟩ := steps
      have taken := enter?_accounts entered accounts
      rw [Stage.locks, Multiset.zero_add] at taken
      exact taken
  | opened lock =>
      cases checked : caller.resource.checkTarget caller.call.request.action caller.action.flags caller.key
          node with
      | mk result mid =>
          have same : mid.guards = node.guards := (Resource.ends_checkTarget.of_eq checked).1.guards
          simp only [advance, checked, Option.some.injEq] at steps
          cases result <;> cases steps <;> exact same ▸ accounts
  | handling lock plan =>
      cases plan with
      | done outcome =>
          cases steps
          have same : (Run.ofExcept outcome node).2.guards = node.guards := by cases outcome <;> rfl
          exact caller.guards_conclude _ same ▸ accounts
      | reserve name other next =>
          cases resolved : engine.resolve caller.key (caller.key.sibling name) node with
          | mk result mid =>
              have same : mid.guards = node.guards := (Engine.ends_resolve.of_eq resolved).1.guards
              simp only [advance, resolved, Option.some.injEq] at steps
              cases result with
              | ok resource =>
                  cases steps
                  exact same ▸ accounts
              | error halt =>
                  have resumed : caller.resume lock next (.error halt) mid = (stage', after) := steps
                  obtain ⟨kept, locks⟩ := caller.resume_locks lock next (.error halt) mid
                  rw [resumed] at kept locks
                  rw [locks, kept, same]
                  exact accounts
  | seeking lock resource name other next =>
      simp only [advance, Option.map_eq_some_iff, Prod.mk.injEq] at steps
      obtain ⟨⟨inner, start⟩, entered, rfl, rfl⟩ := steps
      have taken := enter?_accounts entered accounts
      rw [← Multiset.cons_add] at taken
      exact taken
  | reserving lock resource name inner next =>
      cases steps
      exact Engine.guards_holdReservation resource caller.key (caller.key.sibling name) node ▸ accounts
  | reserved lock name inner result next =>
      simp only [advance, Option.some.injEq] at steps
      have held : node.guards.AccountsFor (((caller.key.sibling name).text, ⟨inner, .shared⟩) ::ₘ
          ({(caller.key.text, ⟨lock, caller.mode⟩)} + others)) := by
        rw [← Multiset.cons_add]
        exact accounts
      have given := leave_accounts (.dependency .add (caller.key.sibling name)) result held
      generalize node.leave (.dependency .add (caller.key.sibling name)) inner result = left at steps given
      obtain ⟨result, last⟩ := left
      obtain ⟨kept, locks⟩ := caller.resume_locks lock next result last
      rw [steps] at kept locks
      rw [locks, kept]
      exact given
  | leaving lock result =>
      cases steps
      rw [Stage.locks, Multiset.zero_add]
      exact leave_accounts caller.frame result accounts
  | finished => cases steps

/-- A caller makes no step just if it has come to its end, or cannot have the lock that it needs next. -/
theorem advance_eq_none_iff : caller.advance node stage = none ↔ stage.isFinished = true ∨
    ∃ id mode, stage.wants caller.mode = some (id, mode) ∧ node.guards.take? id mode = none := by
  cases stage with
  | ready | seeking =>
      simp only [advance, Option.map_eq_none_iff, enter?, Stage.isFinished, Bool.false_eq_true, false_or,
        Stage.wants, Option.some.injEq, Prod.mk.injEq, and_assoc, exists_and_left, exists_eq_left']
      exact Iff.rfl
  | handling lock plan => cases plan <;> simp [advance, Stage.isFinished, Stage.wants]
  | opened | reserving | reserved | leaving | finished => simp [advance, Stage.isFinished, Stage.wants]

end Caller

/-! ## All callers together -/

/-- Callers on a node, each at a stage of its own. -/
structure Traffic {engine : Engine} {ι : Type} (callers : ι → Caller engine) where
  node : Node
  stage : ∀ i, Stage (callers i).key

namespace Traffic

variable {engine : Engine} {ι : Type} {callers : ι → Caller engine}

/-- No caller has begun. -/
def start (callers : ι → Caller engine) (node : Node) : Traffic callers := ⟨node, fun _ => .ready⟩

def Unfinished (traffic : Traffic callers) (i : ι) : Prop := (traffic.stage i).isFinished = false

/-- The lock that a caller needs next. -/
def wants (traffic : Traffic callers) (i : ι) : Option (String × LockMode) :=
  (traffic.stage i).wants (callers i).mode

/-- The locks that a caller holds. -/
def locks (traffic : Traffic callers) (i : ι) : Multiset (String × Hold) :=
  (traffic.stage i).locks (callers i).mode

/-- Another caller holds the lock that a caller needs next, and not in a way that lets it be had. -/
def WaitsFor (traffic : Traffic callers) (i j : ι) : Prop :=
  i ≠ j ∧ ∃ id mode hold, traffic.wants i = some (id, mode) ∧ (id, hold) ∈ traffic.locks j ∧
    (hold.mode = .exclusive ∨ mode = .exclusive)

/-- Both callers are in their handlers and ask for the lock of another object. The lock that the one asks for
    is that of the other's own object, on which the other works alone. -/
def Clasps (traffic : Traffic callers) (i j : ι) : Prop :=
  (callers j).mode = .exclusive ∧ ∃ slave, (traffic.stage i).sought = some slave ∧
    slave.text = (callers j).key.text ∧ (traffic.stage j).sought.isSome = true

variable {traffic : Traffic callers} {i j k : ι}

/-! ## Who waits for whom -/

theorem wants_notMem_locks {id : String} {mode : LockMode} {hold : Hold}
    (wants : traffic.wants i = some (id, mode)) : (id, hold) ∉ traffic.locks i := by
  intro member
  rw [Traffic.wants] at wants
  rw [locks] at member
  cases stage : traffic.stage i with
  | ready => simp [stage, Stage.locks] at member
  | seeking lock resource name other next =>
      rw [stage] at wants member
      simp only [Stage.wants, Option.some.injEq, Prod.mk.injEq] at wants
      simp only [Stage.locks, Multiset.mem_singleton, Prod.mk.injEq] at member
      exact ObjectKey.sibling_text_ne other (member.1.symm.trans wants.1.symm)
  | opened | handling | reserving | reserved | leaving | finished => simp [stage, Stage.wants] at wants

/-- Whoever is waited for holds a lock, and so has not come to its end. -/
theorem WaitsFor.unfinished (waits : traffic.WaitsFor i j) : traffic.Unfinished j := by
  obtain ⟨-, id, mode, hold, -, member, -⟩ := waits
  rw [locks] at member
  rw [Unfinished]
  cases stage : traffic.stage j with
  | finished => simp [stage, Stage.locks] at member
  | ready | opened | handling | seeking | reserving | reserved | leaving => rfl

/-- Whoever waits and is waited for is in its handler, asks for the lock of another object, and holds that of
    its own. -/
theorem WaitsFor.sought (before : traffic.WaitsFor k i) (after : traffic.WaitsFor i j) :
    ∃ slave lock, (traffic.stage i).sought = some slave ∧
      traffic.wants i = some (slave.text, .shared) ∧
      traffic.locks i = {((callers i).key.text, ⟨lock, (callers i).mode⟩)} := by
  obtain ⟨-, _, _, _, -, held, -⟩ := before
  obtain ⟨-, _, _, _, wants, -⟩ := after
  simp only [Traffic.wants, locks] at held wants ⊢
  cases stage : traffic.stage i with
  | seeking lock resource name other next => exact ⟨_, lock, rfl, rfl, rfl⟩
  | ready => simp [stage, Stage.locks] at held
  | opened | handling | reserving | reserved | leaving | finished => simp [stage, Stage.wants] at wants

theorem clasps_of_circle (round : TransGen traffic.WaitsFor i i) : TransGen traffic.Clasps i i := by
  refine circle_of_circle round fun j k => ?_
  rintro ⟨before, waited⟩ waits ⟨after, further⟩
  obtain ⟨slave, -, seeks, wants, -⟩ := waited.sought waits
  obtain ⟨other, lock, seeks', -, own⟩ := waits.sought further
  obtain ⟨-, id, mode, hold, wants', member, conflict⟩ := waits
  rw [wants] at wants'
  rw [own] at member
  cases wants'
  obtain ⟨same, rfl⟩ := Prod.mk.inj (Multiset.mem_singleton.mp member)
  exact ⟨conflict.resolve_right nofun, slave, seeks, same, by rw [seeks']; rfl⟩

theorem Clasps.waitsFor (clasps : traffic.Clasps i j) : traffic.WaitsFor i j := by
  obtain ⟨writes, slave, seeks, same, seeks'⟩ := clasps
  rw [WaitsFor, Traffic.wants, locks]
  cases stage : traffic.stage i with
  | seeking lock resource name other next =>
      rw [stage] at seeks
      cases seeks
      refine ⟨?_, ?_⟩
      · rintro rfl
        exact ObjectKey.sibling_text_ne other same.symm
      · cases stage' : traffic.stage j with
        | seeking lock' =>
            refine ⟨_, _, ⟨lock', (callers j).mode⟩, rfl, ?_, .inl writes⟩
            simp [Stage.locks, same]
        | ready | opened | handling | reserving | reserved | leaving | finished =>
            simp [stage', Stage.sought] at seeks'
  | ready | opened | handling | reserving | reserved | leaving | finished =>
      simp [stage, Stage.sought] at seeks

theorem Clasps.unfinished (clasps : traffic.Clasps i j) : traffic.Unfinished i := by
  obtain ⟨-, slave, seeks, -⟩ := clasps
  rw [Unfinished]
  cases stage : traffic.stage i with
  | finished => simp [stage, Stage.sought] at seeks
  | ready | opened | handling | seeking | reserving | reserved | leaving => rfl

/-- Where all wait that have not come to their end, each is kept from it by a circle. -/
theorem leads_to_circle [Finite ι] (all : ∀ i, traffic.Unfinished i → ∃ j, traffic.WaitsFor i j)
    (unfinished : traffic.Unfinished i) :
    ∃ j, ReflTransGen traffic.WaitsFor i j ∧ TransGen traffic.Clasps j j := by
  have goes : ∀ j, ReflTransGen traffic.WaitsFor i j → ∃ k, traffic.WaitsFor j k := by
    intro j path
    cases path with
    | refl => exact all i unfinished
    | tail _ last => exact all j last.unfinished
  obtain ⟨j, path, round⟩ := exists_circle goes
  exact ⟨j, path, clasps_of_circle round⟩

/-! ## Steps in any order -/

section Fintype

variable [Fintype ι]

/-- The table accounts for the locks of all callers. -/
def Kept (traffic : Traffic callers) : Prop :=
  traffic.node.guards.AccountsFor (∑ i, traffic.locks i)

theorem kept_start {node : Node} (unguarded : node.guards.entries = ∅) (free : node.guards.holds = []) :
    (start callers node).Kept := by
  have none' : ∑ i, (start callers node).locks i = 0 := Finset.sum_eq_zero fun _ _ => rfl
  rw [Kept, none']
  refine ⟨⟨?_, ?_, ?_, ?_⟩, ?_, ?_, ?_, ?_⟩ <;> simp [start, unguarded, free, GuardTable.refCount]

/-- A caller cannot have the lock that it needs just if it waits for another caller. -/
theorem Kept.waits_iff (kept : traffic.Kept) (unfinished : traffic.Unfinished i) :
    (∃ j, traffic.WaitsFor i j) ↔ (callers i).advance traffic.node (traffic.stage i) = none := by
  rw [Caller.advance_eq_none_iff, unfinished]
  simp only [Bool.false_eq_true, false_or]
  constructor
  · rintro ⟨j, -, id, mode, hold, wants, member, conflict⟩
    refine ⟨id, mode, wants, (GuardTable.AccountsFor.refused_iff kept).mpr ⟨hold, ?_, conflict⟩⟩
    exact Multiset.mem_sum.mpr ⟨j, Finset.mem_univ j, member⟩
  · rintro ⟨id, mode, wants, refused⟩
    obtain ⟨hold, member, conflict⟩ := (GuardTable.AccountsFor.refused_iff kept).mp refused
    obtain ⟨j, -, member⟩ := Multiset.mem_sum.mp member
    refine ⟨j, ?_, id, mode, hold, wants, member, conflict⟩
    rintro rfl
    exact wants_notMem_locks wants member

end Fintype

variable [DecidableEq ι]

/-- One caller makes its next step, if it can. -/
def step (traffic : Traffic callers) (i : ι) : Traffic callers :=
  match (callers i).advance traffic.node (traffic.stage i) with
  | none => traffic
  | some (stage, node) => ⟨node, Function.update traffic.stage i stage⟩

/-- Callers make steps in an order. -/
def follow (traffic : Traffic callers) (schedule : List ι) : Traffic callers := schedule.foldl step traffic

theorem step_of_advance {stage : Stage (callers i).key} {node : Node}
    (advances : (callers i).advance traffic.node (traffic.stage i) = some (stage, node)) :
    traffic.step i = ⟨node, Function.update traffic.stage i stage⟩ := by rw [step, advances]

theorem step_of_none (waits : (callers i).advance traffic.node (traffic.stage i) = none) :
    traffic.step i = traffic := by rw [step, waits]

namespace Kept

variable [Fintype ι] (kept : traffic.Kept)

include kept

theorem step (i : ι) : (traffic.step i).Kept := by
  cases course : (callers i).advance traffic.node (traffic.stage i) with
  | none => rwa [step_of_none course]
  | some both =>
      obtain ⟨stage, node⟩ := both
      rw [step_of_advance course]
      have own : locks ⟨node, Function.update traffic.stage i stage⟩ i = stage.locks (callers i).mode := by
        simp only [locks, Function.update_self]
      have rest : ∑ j ∈ Finset.univ.erase i, locks ⟨node, Function.update traffic.stage i stage⟩ j =
          ∑ j ∈ Finset.univ.erase i, traffic.locks j :=
        Finset.sum_congr rfl fun j member => by
          simp only [locks, Function.update_of_ne (Finset.ne_of_mem_erase member)]
      rw [Kept, ← Finset.add_sum_erase _ _ (Finset.mem_univ i)] at kept ⊢
      rw [own, rest]
      exact (callers i).advance_accounts course kept

theorem follow (schedule : List ι) : (traffic.follow schedule).Kept := by
  induction schedule generalizing traffic with
  | nil => exact kept
  | cons i schedule ih => exact ih (kept.step i)

/-- Who is in a circle cannot go on, and the others do not open it. -/
theorem circle_step (k : ι) (round : TransGen traffic.Clasps i i) :
    TransGen (traffic.step k).Clasps i i := by
  cases course : (callers k).advance traffic.node (traffic.stage k) with
  | none => rwa [step_of_none course]
  | some both =>
      obtain ⟨stage, node⟩ := both
      rw [step_of_advance course]
      have still : ∀ j, (∃ after, traffic.Clasps j after) → j ≠ k := by
        rintro j ⟨after, clasps⟩ rfl
        rw [(kept.waits_iff clasps.unfinished).mp ⟨after, clasps.waitsFor⟩] at course
        cases course
      refine circle_of_circle round fun j j' _ clasps after => ?_
      simpa only [Clasps, Function.update_of_ne (still j ⟨j', clasps⟩),
        Function.update_of_ne (still j' after)] using clasps

theorem circle_follow (schedule : List ι) (round : TransGen traffic.Clasps i i) :
    TransGen (traffic.follow schedule).Clasps i i := by
  induction schedule generalizing traffic with
  | nil => exact round
  | cons k schedule ih => exact ih (kept.step k) (kept.circle_step k round)

end Kept

end Traffic

/-- Whatever steps callers that make reservations have made in whatever order: a caller that has not come to
    its end can make its next step unless it waits for another. All that have not come to their end wait just
    if each of them leads to a circle of callers, of which each works on its object alone and asks for the
    object of the next one. Such a circle stays whatever steps are made after it. The conditions are exact for
    the assumed lock, where a reader waits for holders only and not for writers that wait. -/
theorem all_wait_iff_circles {engine : Engine} {ι : Type} [DecidableEq ι] [Fintype ι]
    (callers : ι → Caller engine) {node : Node} (unguarded : node.guards.entries = ∅)
    (free : node.guards.holds = []) (schedule : List ι) :
    let traffic := (Traffic.start callers node).follow schedule
    (∀ i, traffic.Unfinished i → ((∃ j, traffic.WaitsFor i j) ↔
      (callers i).advance traffic.node (traffic.stage i) = none)) ∧
    ((∀ i, traffic.Unfinished i → ∃ j, traffic.WaitsFor i j) ↔
      ∀ i, traffic.Unfinished i →
        ∃ j, ReflTransGen traffic.WaitsFor i j ∧ TransGen traffic.Clasps j j) ∧
    ∀ further i, TransGen traffic.Clasps i i → TransGen (traffic.follow further).Clasps i i := by
  intro traffic
  have kept : traffic.Kept := (Traffic.kept_start unguarded free).follow schedule
  refine ⟨fun i => kept.waits_iff, ⟨fun all i => Traffic.leads_to_circle all, ?_⟩,
    fun further i => kept.circle_follow further⟩
  intro circles i unfinished
  obtain ⟨j, path, round⟩ := circles i unfinished
  cases path.cases_head with
  | inl same =>
      subst same
      obtain ⟨next, clasps, -⟩ := TransGen.head'_iff.mp round
      exact ⟨next, clasps.waitsFor⟩
  | inr first =>
      obtain ⟨next, waits, -⟩ := first
      exact ⟨next, waits⟩

namespace Small

/-- The name of the other one of two objects. -/
def peer (name : String) : String := if name = "a" then "b" else "a"

theorem peer_ne (name : String) : peer name ≠ name := by
  rw [peer]
  split
  next same => simp [same]
  next other => exact fun same => other same.symm

/-- Reserves the other one of two objects. -/
def joining (key : ObjectKey) : Reservations key := .reserve (peer key.object) (peer_ne _) .done

def join : Action where
  handler key _ := (joining key).program
  flags := .exclusive

def netEngine : Engine where
  resources := [{ name := "net", flags := .shareable, actions := [("join", join)], guards := .shared }]

def netNode : Node where
  store := (MemoryStore.empty.write (object "a") ⟨"net", []⟩).write (object "b") ⟨"net", []⟩

def joiner (name : String) : Caller netEngine where
  call := ⟨1, "space", "net", { action := "join", object := name }⟩
  resource := { name := "net", flags := .shareable, actions := [("join", join)], guards := .shared }
  action := join
  plan := joining _
  registered := rfl
  shared := rfl
  described := rfl
  handles := rfl

/-- Two callers, each to reserve the object that the other one works on. -/
def joiners (second : Bool) : Caller netEngine := joiner (if second then "b" else "a")

/-- Both are in their handlers and have looked up the other's object. -/
def joined : Traffic joiners := (Traffic.start joiners netNode).follow [false, true, false, true, false, true]

theorem joined_clasps (i : Bool) : joined.Clasps i !i := by
  cases i with
  | false => exact ⟨rfl, object "b", by decide +kernel, rfl, by decide +kernel⟩
  | true => exact ⟨rfl, object "a", by decide +kernel, rfl, by decide +kernel⟩

end Small

/-- Two callers that are to reserve each other's object get to where both of them wait. -/
theorem opposite_reservations_wait :
    let traffic := (Traffic.start Small.joiners Small.netNode).follow [false, true, false, true, false, true]
    (∃ i, traffic.Unfinished i) ∧ ∀ i, traffic.Unfinished i → ∃ j, traffic.WaitsFor i j :=
  ⟨⟨false, (Small.joined_clasps false).unfinished⟩, fun i _ => ⟨!i, (Small.joined_clasps i).waitsFor⟩⟩

/-- The general statement for these two: they wait for each other for ever. -/
theorem all_wait_iff_circles_joiners :
    (Small.netNode.guards.entries = ∅ ∧ Small.netNode.guards.holds = []) ∧
    ∀ further, TransGen (Small.joined.follow further).Clasps false false := by
  have unguarded : Small.netNode.guards.entries = ∅ := rfl
  have general := all_wait_iff_circles Small.joiners unguarded rfl [false, true, false, true, false, true]
  have round : TransGen Small.joined.Clasps false false :=
    .tail (.single (Small.joined_clasps false)) (Small.joined_clasps true)
  exact ⟨⟨unguarded, rfl⟩, fun further => general.2.2 further false round⟩

end Provision
