import Provision.Proofs.Run.Ends
import Provision.Proofs.Store.Ledger

/-! # Histories

The history of a node tells the store that it has: what the calls told of leave one after the
other. A part of a history is the history of an earlier moment, so a condition on all its parts is
a condition on every moment of a run. A run that only asks leaves the store alone at every moment;
a run that performs one order changes it at one moment only.
-/

namespace Provision

/-- The store that a history leaves of an empty one. -/
def storeAfter : List Mark → MemoryStore
  | [] => .empty
  | .stored call false :: past => (storeAfter past).after call
  | _ :: past => storeAfter past

theorem storeAfter_paired (past : List Mark) : (storeAfter past).Paired := by
  induction past with
  | nil => exact MemoryStore.paired_empty
  | cons mark past ih =>
      cases mark with
      | stored call astray =>
          cases astray with
          | false => exact ih.after call
          | true => exact ih
      | began | ended | reported | noted => exact ih

/-- An entry of a history that tells of no change. -/
def Mark.Idle : Mark → Prop
  | .stored call astray => astray = true ∨ call.Reads
  | .reported _ | .noted _ => True
  | .began _ | .ended _ => False

/-- An entry of a history that somebody has told. -/
def Mark.Spoken : Mark → Prop
  | .reported _ | .noted _ => True
  | .began _ | .ended _ | .stored .. => False

theorem Mark.Spoken.idle {mark : Mark} (spoken : mark.Spoken) : mark.Idle := by
  cases mark with
  | reported | noted => trivial
  | began | ended | stored => exact spoken.elim

theorem Mark.Idle.storeAfter {mark : Mark} (idle : mark.Idle) (past : List Mark) :
    storeAfter (mark :: past) = storeAfter past := by
  cases mark with
  | stored call astray =>
      cases astray with
      | false => exact (idle.resolve_left Bool.false_ne_true).after _
      | true => rfl
  | began | ended | reported | noted => rfl

/-- What entries that tell of no change do not alter is the same before and after them. -/
theorem same_idle {α : Type} {told : List Mark → α}
    (same : ∀ mark past, mark.Idle → told (mark :: past) = told past) {marks past : List Mark}
    (idle : ∀ mark ∈ marks, mark.Idle) : told (marks ++ past) = told past := by
  induction marks with
  | nil => rfl
  | cons mark marks ih =>
      rw [List.cons_append, same mark _ (idle mark List.mem_cons_self)]
      exact ih fun other member => idle other (List.mem_cons_of_mem _ member)

theorem storeAfter_idle {marks past : List Mark} (idle : ∀ mark ∈ marks, mark.Idle) :
    storeAfter (marks ++ past) = storeAfter past :=
  same_idle (fun _ past known => known.storeAfter past) idle

namespace Node

/-- The history tells the store, and a condition held at every moment. -/
structure Traced (P : List Mark → Prop) (node : Node) : Prop where
  store : storeAfter node.history = node.store
  always : ∀ past, past <:+ node.history → P past

variable {P : List Mark → Prop} {node mid after : Node} {call call' : StoreCall}

theorem Traced.paired (traced : node.Traced P) : node.store.Paired :=
  traced.store ▸ storeAfter_paired _

theorem Traced.now (traced : node.Traced P) : P node.history :=
  traced.always _ (List.suffix_refl _)

theorem traced_start (faults : FaultPlan) (first : P []) : ({ faults } : Node).Traced P where
  store := rfl
  always past part := by
    rw [List.suffix_nil.mp part]
    exact first

theorem Traced.imp {Q : List Mark → Prop} (traced : node.Traced P) (weaker : ∀ past, P past → Q past) :
    node.Traced Q :=
  ⟨traced.store, fun past part => weaker past (traced.always past part)⟩

/-- Frames that begin and end are no change. -/
theorem Traced.marked (traced : node.Traced P) {mark : Mark}
    (same : storeAfter (mark :: node.history) = storeAfter node.history)
    (now : P (mark :: node.history)) : (node.marked mark).Traced P where
  store := same.trans traced.store
  always past part := by
    rcases List.suffix_cons_iff.mp part with rfl | part
    · exact now
    · exact traced.always past part

theorem Traced.withTable (traced : node.Traced P) {scope : GuardScope} {table : GuardTable} :
    (node.withTable scope table).Traced P where
  store := by simpa using traced.store
  always past part := traced.always past (by simpa using part)

/-- Nothing but the history of a node is another, and it tells of no change. -/
structure Consulted (node after : Node) : Prop where
  store : after.store = node.store
  guards : after.guards = node.guards
  ownGuards : after.ownGuards = node.ownGuards
  schedule : after.faults.schedule = node.faults.schedule
  history : ∃ marks, after.history = marks ++ node.history ∧ ∀ mark ∈ marks, mark.Idle

theorem Consulted.refl (node : Node) : Consulted node node :=
  ⟨rfl, rfl, rfl, rfl, [], rfl, by simp⟩

theorem Consulted.trans (first : Consulted node mid) (second : Consulted mid after) :
    Consulted node after := by
  obtain ⟨marks, told, idle⟩ := first.history
  obtain ⟨later, told', idle'⟩ := second.history
  refine ⟨second.store.trans first.store, second.guards.trans first.guards,
    second.ownGuards.trans first.ownGuards, second.schedule.trans first.schedule,
    later ++ marks, by rw [told', told, List.append_assoc], ?_⟩
  intro mark member
  exact (List.mem_append.mp member).elim (idle' mark) (idle mark)

theorem Consulted.marked {mark : Mark} (idle : mark.Idle) : Consulted node (node.marked mark) :=
  ⟨rfl, rfl, rfl, rfl, [mark], rfl, by simpa using idle⟩

/-- An order was carried out, and nothing was done besides but asking. -/
structure Performed (call : StoreCall) (node after : Node) : Prop where
  store : after.store = node.store.after call
  guards : after.guards = node.guards
  ownGuards : after.ownGuards = node.ownGuards
  schedule : after.faults.schedule = node.faults.schedule
  history : ∃ later earlier, after.history = later ++ .stored call false :: (earlier ++ node.history) ∧
    (∀ mark ∈ later, mark.Idle) ∧ ∀ mark ∈ earlier, mark.Idle

theorem Consulted.performed (first : Consulted node mid) (second : Performed call mid after) :
    Performed call node after := by
  obtain ⟨marks, told, idle⟩ := first.history
  obtain ⟨later, earlier, told', idle', idle''⟩ := second.history
  refine ⟨by rw [second.store, first.store], second.guards.trans first.guards,
    second.ownGuards.trans first.ownGuards, second.schedule.trans first.schedule,
    later, earlier ++ marks, by rw [told', told, List.append_assoc], idle', ?_⟩
  intro mark member
  exact (List.mem_append.mp member).elim (idle'' mark) (idle mark)

theorem Performed.consulted (first : Performed call node mid) (second : Consulted mid after) :
    Performed call node after := by
  obtain ⟨marks, told, idle⟩ := second.history
  obtain ⟨later, earlier, told', idle', idle''⟩ := first.history
  refine ⟨by rw [second.store, first.store], second.guards.trans first.guards,
    second.ownGuards.trans first.ownGuards, second.schedule.trans first.schedule,
    marks ++ later, earlier, by rw [told, told', List.append_assoc], ?_, idle''⟩
  intro mark member
  exact (List.mem_append.mp member).elim (idle mark) (idle' mark)

/-- Carrying out a question changes nothing. -/
theorem Performed.ofReads (performed : Performed call node after) (reads : call.Reads) :
    Consulted node after := by
  obtain ⟨later, earlier, told, idle, idle'⟩ := performed.history
  refine ⟨performed.store.trans (reads.after _), performed.guards, performed.ownGuards,
    performed.schedule, later ++ .stored call false :: earlier, by simp [told], ?_⟩
  intro mark member
  rcases List.mem_append.mp member with member | member
  · exact idle mark member
  · rcases List.mem_cons.mp member with rfl | member
    · exact .inr reads
    · exact idle' mark member

section Stable

variable (stable : ∀ mark past, mark.Idle → P past → P (mark :: past))

include stable

theorem always_idle {marks past : List Mark} (idle : ∀ mark ∈ marks, mark.Idle)
    (before : ∀ part, part <:+ past → P part) : ∀ part, part <:+ marks ++ past → P part := by
  induction marks with
  | nil => exact before
  | cons mark marks ih =>
      have known := ih fun other member => idle other (List.mem_cons_of_mem _ member)
      intro part suffix
      rcases List.suffix_cons_iff.mp suffix with rfl | suffix
      · exact stable mark _ (idle mark List.mem_cons_self) (known _ (List.suffix_refl _))
      · exact known part suffix

theorem Consulted.traced (consulted : Consulted node after) (traced : node.Traced P) :
    after.Traced P := by
  obtain ⟨marks, told, idle⟩ := consulted.history
  constructor
  · rw [told, storeAfter_idle idle, traced.store, consulted.store]
  · rw [told]
    exact always_idle stable idle traced.always

theorem Performed.traced (performed : Performed call node after) (traced : node.Traced P)
    (now : ∀ past, storeAfter past = node.store → (∃ earlier, past = earlier ++ node.history ∧
      ∀ mark ∈ earlier, mark.Idle) → P past → P (.stored call false :: past)) :
    after.Traced P := by
  obtain ⟨later, earlier, told, idle, idle'⟩ := performed.history
  have known := always_idle stable idle' traced.always
  have store : storeAfter (earlier ++ node.history) = node.store := by
    rw [storeAfter_idle idle', traced.store]
  constructor
  · rw [told, storeAfter_idle idle, storeAfter, store, performed.store]
  · rw [told]
    refine always_idle stable idle fun part suffix => ?_
    rcases List.suffix_cons_iff.mp suffix with rfl | suffix
    · exact now _ store ⟨earlier, rfl, idle'⟩ (known _ (List.suffix_refl _))
    · exact known part suffix

end Stable

end Node

/-! ## Asking the store -/

namespace Fault

/-- Only about the existence of an object may the answer to a call that goes wrong look like one to a
    call that does not. -/
theorem answer_eq_ok {fault : Fault} {call : StoreCall} {answer : call.Answer}
    (answered : fault.answer call = .ok answer) :
    ∃ key claimed, call = .has key ∧ fault = .claim claimed := by
  cases call with
  | has key => cases fault with
    | claim claimed => exact ⟨key, claimed, rfl, rfl⟩
    | unavailable | failing | missing => cases answered
  | get | write | remove | link | unlink | release | masters => cases fault <;> cases answered

end Fault

/-- No call is ever answered wrongly; it may still fail. -/
def FaultPlan.Honest (faults : FaultPlan) : Prop :=
  ∀ operation n claimed, faults.schedule operation n ≠ some (.claim claimed)

/-- No call ever goes wrong. -/
def FaultPlan.Calm (faults : FaultPlan) : Prop := ∀ operation n, faults.schedule operation n = .none

theorem FaultPlan.calm_none : FaultPlan.none.Calm := fun _ _ => rfl

theorem FaultPlan.Calm.honest {faults : FaultPlan} (calm : faults.Calm) : faults.Honest := by
  intro operation n claimed found
  rw [calm operation n] at found
  cases found

theorem FaultPlan.not_calm {faults : FaultPlan} {operation : StoreOperation} {fault : Fault}
    (planned : faults.next operation = some fault) : ¬faults.Calm := by
  intro calm
  rw [next, calm] at planned
  cases planned

theorem Node.Consulted.honest_iff {node after : Node} (asked : Consulted node after) :
    after.faults.Honest ↔ node.faults.Honest := by
  rw [FaultPlan.Honest, asked.schedule, ← FaultPlan.Honest]

theorem Node.Consulted.calm_iff {node after : Node} (asked : Consulted node after) :
    after.faults.Calm ↔ node.faults.Calm := by
  rw [FaultPlan.Calm, asked.schedule, ← FaultPlan.Calm]

namespace Run

open Node

variable {ε α : Type} {node : Node} {call : StoreCall}

/-- A call goes wrong and nothing is done, or it is carried out. -/
theorem ends_ask {post : Except (Halt ε) (Except StoreError call.Answer) → Node → Prop}
    (astray : ∀ fault after, node.faults.next call.operation = some fault → Consulted node after →
      post (.ok (fault.answer call)) after)
    (carried : ∀ after, Performed call node after → post (.ok (node.store.answer call).1) after) :
    (ask call).Ends node post := by
  simp only [Ends, ask]
  cases planned : node.faults.next call.operation with
  | some fault =>
      refine astray fault _ planned ⟨rfl, rfl, rfl, rfl, [.stored call true], rfl, ?_⟩
      simp [Mark.Idle]
  | none =>
      refine carried _ ⟨rfl, rfl, rfl, rfl, ((node.reports call).map Mark.reported).reverse, [],
        rfl, ?_, by simp⟩
      intro mark member
      obtain ⟨event, -, rfl⟩ := List.mem_map.mp (List.mem_reverse.mp member)
      trivial

/-- A call that must not fail: it fails and nothing is done, or it is carried out. -/
theorem ends_demand {post : Except (Halt EngineError) call.Answer → Node → Prop}
    (fails : ∀ cause after, ¬node.faults.Calm → Consulted node after →
      post (.error (.error (.store cause))) after)
    (refused : ∀ cause after, Performed call node after →
      (node.store.answer call).1 = .error cause → post (.error (.error (.store cause))) after)
    (claims : ∀ key claimed answer after, call = .has key →
      node.faults.next .has = some (.claim claimed) → Consulted node after →
      post (.ok answer) after)
    (carried : ∀ answer after, Performed call node after → (node.store.answer call).1 = .ok answer →
      post (.ok answer) after) :
    (demand call).Ends node post := by
  have asked : (ask call : Run EngineError _).Ends node fun result after => ∃ reply,
      result = .ok reply ∧ (Consulted node after ∧
        (∃ fault, node.faults.next call.operation = some fault ∧ reply = fault.answer call) ∨
          Performed call node after ∧ reply = (node.store.answer call).1) := by
    apply ends_ask
    · intro fault after planned consulted
      exact ⟨_, rfl, .inl ⟨consulted, fault, planned, rfl⟩⟩
    · intro after performed
      exact ⟨_, rfl, .inr ⟨performed, rfl⟩⟩
  apply asked.bind
  · intro reply after both
    obtain ⟨reply', same, course⟩ := both
    cases same
    rcases course with ⟨consulted, fault, planned, answered⟩ | ⟨performed, answered⟩
    · cases reply with
      | error cause => exact fails cause after (FaultPlan.not_calm planned) consulted
      | ok answer =>
          obtain ⟨key, claimed, rfl, rfl⟩ := Fault.answer_eq_ok answered.symm
          exact claims key claimed answer after rfl planned consulted
    · cases reply with
      | error cause => exact refused cause after performed answered.symm
      | ok answer => exact carried answer after performed answered.symm
  · intro halt after both
    obtain ⟨reply, same, -⟩ := both
    cases same

/-- Nothing was done but asking, and what was found out meets a condition unless a call to the store
    went wrong. -/
def Learns (node : Node) (P : α → Prop) (result : Except (Halt EngineError) α) (after : Node) :
    Prop :=
  Consulted node after ∧
    match result with
    | .ok value => P value
    | .error halt => (∃ cause, halt = .error (.store cause)) ∧ ¬node.faults.Calm

/-- Whoever asks first either fails with the store or goes on with what was found out. -/
theorem Ends.learn {β : Type} {P : α → Prop} {body : Run EngineError α}
    {next : α → Run EngineError β} {post : Except (Halt EngineError) β → Node → Prop}
    (first : body.Ends node (Learns node P))
    (fails : ∀ cause after, ¬node.faults.Calm → Consulted node after →
      post (.error (.error (.store cause))) after)
    (goes : ∀ value after, Consulted node after → P value → (next value).Ends after post) :
    (body >>= next).Ends node post := by
  apply first.bind
  · intro value after both
    obtain ⟨consulted, known⟩ := both
    exact goes value after consulted known
  · intro halt after both
    obtain ⟨consulted, ⟨cause, rfl⟩, wrong⟩ := both
    exact fails cause after wrong consulted

/-- Only a store that answers wrongly misleads about the existence of an object. -/
theorem learns_has (key : ObjectKey) : (demand (.has key)).Ends node
    (Learns node fun present => node.faults.Honest → present = node.store.hasRecord key) := by
  apply ends_demand
  · exact fun cause after wrong consulted => ⟨consulted, ⟨cause, rfl⟩, wrong⟩
  · intro cause after performed refused
    cases refused
  · intro key claimed answer after same planned consulted
    exact ⟨consulted, fun honest => absurd planned (honest _ _ _)⟩
  · intro answer after performed answered
    refine ⟨performed.ofReads trivial, fun _ => ?_⟩
    cases answered
    rfl

theorem learns_masters (slave : ObjectKey) : (demand (.masters slave)).Ends node
    (Learns node fun masters => masters = node.store.mastersOf slave) := by
  apply ends_demand
  · exact fun cause after wrong consulted => ⟨consulted, ⟨cause, rfl⟩, wrong⟩
  · intro cause after performed refused
    cases refused
  · intro key claimed answer after same
    cases same
  · intro masters after performed answered
    cases answered
    exact ⟨performed.ofReads trivial, rfl⟩

/-- A question about a record fails also if there is none. -/
theorem ends_demand_get {key : ObjectKey} :
    (demand (.get key)).Ends node fun result after => Consulted node after ∧
      match result with
      | .ok record => node.store.record? key = some record
      | .error halt => (∃ cause, halt = .error (.store cause)) ∧
          (node.faults.Calm → node.store.record? key = none) := by
  apply ends_demand
  · exact fun cause after wrong consulted => ⟨consulted, ⟨cause, rfl⟩, fun calm => absurd calm wrong⟩
  · intro cause after performed refused
    refine ⟨performed.ofReads trivial, ⟨cause, rfl⟩, fun _ => ?_⟩
    cases found : node.store.record? key with
    | none => rfl
    | some record => simp [MemoryStore.answer, found] at refused
  · intro key claimed answer after same
    cases same
  · intro record after performed answered
    refine ⟨performed.ofReads trivial, ?_⟩
    cases found : node.store.record? key with
    | none => simp [MemoryStore.answer, found] at answered
    | some record' =>
        simp only [MemoryStore.answer, found, Except.ok.injEq] at answered
        rw [answered]

/-- An order that the store never refuses. -/
theorem ends_demand_order {post : Except (Halt EngineError) call.Answer → Node → Prop}
    (granted : ∃ answer, (node.store.answer call).1 = .ok answer) (order : ∀ key, call ≠ .has key)
    (fails : ∀ cause after, ¬node.faults.Calm → Consulted node after →
      post (.error (.error (.store cause))) after)
    (carried : ∀ answer after, Performed call node after → (node.store.answer call).1 = .ok answer →
      post (.ok answer) after) :
    (demand call).Ends node post := by
  obtain ⟨known, same⟩ := granted
  apply ends_demand
  · exact fails
  · intro cause after performed refused
    rw [same] at refused
    cases refused
  · intro key claimed answer after asked
    exact absurd asked (order key)
  · exact carried

end Run

end Provision
