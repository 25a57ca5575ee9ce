import Provision.Proofs.Guard.Balance
import Provision.Proofs.Store.Place

/-! # Runs side by side

One body is run from two nodes that agree on a place. What it asks about the place it is answered alike, what
it changes there it changes in both, and locks are to be had in both or in neither. So the two runs end with
one result, on nodes that agree on the place again, and have done the same things in the same order.
-/

namespace Provision

open Run Node

/-- The sides of the ledger tell the same, no edge leads from one place to another, and the store does not
    fail. -/
structure Node.Settled (node : Node) : Prop where
  paired : node.store.Paired
  sealed : node.store.Local
  calm : node.faults.Calm

/-- Two nodes that agree on a place. They are settled, their locks look alike, and since two earlier moments
    the same was done on both. -/
structure Twins (place : TenantSpace) (before before' : List Mark) (a b : Node) : Prop where
  left : a.Settled
  right : b.Settled
  agrees : a.store.AgreesOn place b.store
  alike : a.guards.Alike b.guards
  history : ∃ marks, a.history = marks ++ before ∧ b.history = marks ++ before'

/-! ## Calls to the store -/

/-- The node once a call to the store is carried out. -/
def Node.answered (node : Node) (call : StoreCall) : Node :=
  { node with
    store := node.store.after call
    faults := node.faults.count call.operation
    history := ((node.reports call).map Mark.reported).reverse ++ .stored call false :: node.history }

theorem Run.ask_of_calm {ε : Type} {node : Node} (calm : node.faults.Calm) (call : StoreCall) :
    (ask call : Run ε _) node = (.ok (node.store.answer call).1, node.answered call) := by
  have planned : node.faults.next call.operation = none := calm _ _
  simp only [ask, planned]
  rfl

theorem Node.Settled.answered {node : Node} {place : TenantSpace} {call : StoreCall} (settled : node.Settled)
    (within : call.Within (·.place = place)) : (node.answered call).Settled :=
  ⟨settled.paired.after call, settled.sealed.after within, settled.calm⟩

namespace Twins

variable {place : TenantSpace} {before before' : List Mark} {a b : Node} {call : StoreCall}
  (twins : Twins place before before' a b)

include twins

theorem symm : Twins place before' before b a := by
  obtain ⟨marks, told, told'⟩ := twins.history
  exact ⟨twins.right, twins.left, twins.agrees.symm, twins.alike.symm, marks, told', told⟩

theorem agreesAt : a.store.AgreesAt (·.place = place) b.store := MemoryStore.agreesOn_iff.mp twins.agrees

theorem marked (mark : Mark) : Twins place before before' (a.marked mark) (b.marked mark) := by
  obtain ⟨marks, told, told'⟩ := twins.history
  exact ⟨⟨twins.left.paired, twins.left.sealed, twins.left.calm⟩,
    ⟨twins.right.paired, twins.right.sealed, twins.right.calm⟩, twins.agrees, twins.alike, mark :: marks,
    congrArg (mark :: ·) told, congrArg (mark :: ·) told'⟩

theorem withTable {table table' : GuardTable} (alike : table.Alike table') :
    Twins place before before' (a.withTable .shared table) (b.withTable .shared table') :=
  ⟨⟨twins.left.paired, twins.left.sealed, twins.left.calm⟩,
    ⟨twins.right.paired, twins.right.sealed, twins.right.calm⟩, twins.agrees, alike, twins.history⟩

variable (within : call.Within (·.place = place))

include within

theorem reports : b.reports call = a.reports call := by
  cases call with
  | remove key =>
      simp only [Node.reports, twins.agreesAt.hasRecord within, twins.agreesAt.slavesOf within]
  | get | has | write | link | unlink | release | masters => rfl

theorem answered : Twins place before before' (a.answered call) (b.answered call) := by
  obtain ⟨marks, told, told'⟩ := twins.history
  have agrees := MemoryStore.agreesOn_iff.mpr (twins.agreesAt.after within)
  refine ⟨twins.left.answered within, twins.right.answered within, agrees, twins.alike,
    ((a.reports call).map Mark.reported).reverse ++ .stored call false :: marks, ?_, ?_⟩
  · simp [Node.answered, told]
  · simp [Node.answered, told', twins.reports within]

end Twins

/-! ## Bodies -/

namespace Run

variable {ε ε' α β : Type} {R : Node → Node → Prop} {a b : Node}

/-- Two runs, each from a node of its own, end with one result on related nodes. -/
def Together (R : Node → Node → Prop) (body body' : Run ε α) (a b : Node) : Prop :=
  (body' b).1 = (body a).1 ∧ R (body a).2 (body' b).2

theorem Together.of_eq {body body' : Run ε α} {result : Except (Halt ε) α} {after : Node}
    (together : Together R body body' a b) (ran : body a = (result, after)) :
    ∃ after', body' b = (result, after') ∧ R after after' := by
  obtain ⟨same, related⟩ := together
  rw [ran] at same related
  exact ⟨(body' b).2, Prod.ext same rfl, related⟩

theorem Together.bind {body body' : Run ε α} {next next' : α → Run ε β} (first : Together R body body' a b)
    (second : ∀ value after after', body a = (.ok value, after) → R after after' →
      Together R (next value) (next' value) after after') :
    Together R (body >>= next) (body' >>= next') a b := by
  cases ran : body a with
  | mk result after =>
      obtain ⟨after', ran', related⟩ := first.of_eq ran
      cases result with
      | ok value =>
          rw [Together, bind_of_ok ran, bind_of_ok ran']
          exact second value after after' ran related
      | error halt =>
          rw [Together, bind_of_error ran, bind_of_error ran']
          exact ⟨rfl, related⟩

/-- A body that from any two related nodes ends alike. -/
def Twin (R : Node → Node → Prop) (body : Run ε α) : Prop := ∀ a b, R a b → Together R body body a b

theorem Twin.mapError {body : Run ε' α} (twin : Twin R body) (f : ε' → ε) : Twin R (body.mapError f) := by
  intro a b related
  cases ran : body a with
  | mk result after =>
      obtain ⟨after', ran', related'⟩ := (twin a b related).of_eq ran
      simp only [Together, Run.mapError, ran, ran']
      cases result <;> exact ⟨rfl, related'⟩

theorem Twin.composed : Composed fun body => Twin R body where
  pure _ _ _ related := ⟨rfl, related⟩
  fail _ _ _ related := ⟨rfl, related⟩
  bind first second a b related := (first a b related).bind fun value _ _ _ => second value _ _
  attempt {_ _ _ body} twin a b related := by
    cases ran : body a with
    | mk result after =>
        obtain ⟨after', ran', related'⟩ := Together.of_eq (twin a b related) ran
        simp only [Together, Run.attempt, ran, ran']
        cases result with
        | ok => exact ⟨rfl, related'⟩
        | error halt => cases halt <;> exact ⟨rfl, related'⟩

/-- A relation of nodes that is not disturbed by what is marked on both, nor by locks that are taken and given back
    on both. -/
structure Lockstep (R : Node → Node → Prop) : Prop where
  marked : ∀ {a b : Node} (mark : Mark), R a b → R (a.marked mark) (b.marked mark)
  alike : ∀ {a b : Node}, R a b → a.guards.Alike b.guards
  withTable : ∀ {a b : Node} {table table' : GuardTable}, R a b → table.Alike table' →
    R (a.withTable .shared table) (b.withTable .shared table')

/-- A body that ends alike from related nodes, and gives back the locks that it takes. -/
structure Coupled (R : Node → Node → Prop) (body : Run ε α) : Prop where
  twin : Twin R body
  back : Keeps GivesBack body

namespace Lockstep

variable (lockstep : Lockstep R)

include lockstep

theorem within {frame : Frame} {body : Run ε α} (twin : Twin R body) : Twin R (within frame body) := by
  intro a b related
  obtain ⟨same, after⟩ := twin _ _ (lockstep.marked (.began frame) related)
  exact ⟨same, lockstep.marked (.ended frame) after⟩

/-- Both runs wait for the lock, or both take it and give it back. -/
theorem guarded {key : ObjectKey} {mode : LockMode} {body : Run ε α} (coupled : Coupled R body) :
    Twin R (guarded .shared key mode body) := by
  intro a b related
  have alike : (a.table .shared).Alike (b.table .shared) := lockstep.alike related
  cases taken : (a.table .shared).take? key.text mode with
  | none =>
      have taken' := alike.take?_eq_none_iff.mpr taken
      rw [Together, guarded_of_refused taken, guarded_of_refused taken']
      exact ⟨rfl, related⟩
  | some both =>
      obtain ⟨hold, held⟩ := both
      obtain ⟨hold', held', taken', held_alike⟩ := alike.exists_take? taken
      obtain ⟨left, agrees, sound, ran⟩ := GivesBack.guarded_of_taken coupled.back alike.sound taken
      obtain ⟨left', agrees', sound', ran'⟩ := GivesBack.guarded_of_taken coupled.back alike.sound' taken'
      obtain ⟨same, after⟩ := coupled.twin _ _ (lockstep.withTable related held_alike)
      rw [Together, ran, ran']
      exact ⟨same, lockstep.withTable after (alike.agrees agrees sound agrees' sound')⟩

/-- If the store answers alike about what is known, all that is asked about it ends alike. -/
theorem serving {known : ObjectKey → Prop}
    (asks : ∀ {ε : Type} (call : StoreCall), call.Within known → Twin R (ask call : Run ε _)) :
    Serving known fun body => Coupled R body := by
  have back := GivesBack.running known
  exact {
    pure := fun value => ⟨Twin.composed.pure value, back.pure value⟩
    fail := fun error => ⟨Twin.composed.fail error, back.fail error⟩
    bind := fun first second => ⟨Twin.composed.bind first.twin fun value => (second value).twin,
      back.bind first.back fun value => (second value).back⟩
    attempt := fun body => ⟨Twin.composed.attempt body.twin, back.attempt body.back⟩
    mapError := fun f body => ⟨body.twin.mapError f, back.mapError f body.back⟩
    mark := fun entry spoken => ⟨fun _ _ related => ⟨rfl, lockstep.marked entry related⟩, back.mark entry spoken⟩
    ask := fun call within => ⟨asks call within, back.ask call within⟩
    within := fun frame _ body => ⟨lockstep.within body.twin, back.within frame body.back⟩
    guarded := fun known body => ⟨lockstep.guarded body, back.guarded known body.back⟩
    panicking := fun message => ⟨fun _ _ related => ⟨rfl, related⟩, back.panicking message⟩
    tooDeep := ⟨fun _ _ related => ⟨rfl, related⟩, back.tooDeep⟩
    look := fun key => ⟨fun _ _ related => ⟨congrArg Except.ok (lockstep.alike related).view, related⟩,
      back.look key⟩ }

end Lockstep

/-! ## What runs alike from twins -/

section Twins

variable {place : TenantSpace} {before before' : List Mark}

theorem twin_ask {call : StoreCall} (within : call.Within (·.place = place)) :
    Twin (Twins place before before') (ask call : Run ε _) := by
  intro a b twins
  rw [Together, ask_of_calm twins.left.calm, ask_of_calm twins.right.calm]
  exact ⟨congrArg Except.ok (twins.agreesAt.answer within twins.left.paired twins.right.paired),
    twins.answered within⟩

theorem demand_masters_of_calm {node : Node} (calm : node.faults.Calm) (slave : ObjectKey) :
    demand (.masters slave) node = (.ok (node.store.mastersOf slave), node.answered (.masters slave)) :=
  bind_of_ok (ask_of_calm calm (.masters slave))

/-- The steps that are allowed may differ, as long as they suffice. No edge leads the search out of its
    place. -/
theorem together_searchMasters {goal : ObjectKey} {steps steps' : Nat} {pending : List ObjectKey}
    {visited : ObjectSet} (twins : Twins place before before' a b) (home : ∀ key ∈ pending, key.place = place)
    (ends : Search.search a.store.mastersOf goal steps pending visited ≠ none)
    (ends' : Search.search b.store.mastersOf goal steps' pending visited ≠ none) :
    Together (Twins place before before')
      (searchMasters (fun key => demand (.masters key)) goal steps pending visited)
      (searchMasters (fun key => demand (.masters key)) goal steps' pending visited) a b := by
  induction steps generalizing steps' pending visited a b with
  | zero =>
      cases pending with
      | nil => cases steps' <;> exact ⟨rfl, twins⟩
      | cons => exact absurd rfl ends
  | succ steps ih =>
      cases pending with
      | nil => cases steps' <;> exact ⟨rfl, twins⟩
      | cons key pending =>
          cases steps' with
          | zero => exact absurd rfl ends'
          | succ steps' =>
              obtain ⟨here, others⟩ := List.forall_mem_cons.mp home
              rw [Search.search_cons] at ends ends'
              simp only [searchMasters]
              split
              · exact ⟨rfl, twins⟩
              next other =>
              rw [if_neg other] at ends ends'
              split
              next seen =>
                rw [if_pos seen] at ends ends'
                exact ih twins others ends ends'
              next new =>
                rw [if_neg new] at ends ends'
                have asked := demand_masters_of_calm twins.left.calm key
                have asked' := demand_masters_of_calm twins.right.calm key
                have same := twins.agreesAt.mastersOf twins.left.paired twins.right.paired here
                rw [Together, bind_of_ok asked, bind_of_ok asked', same]
                refine ih (twins.answered here) ?_ ends (same ▸ ends')
                intro master member
                rcases List.mem_append.mp member with found | old
                · have edge := twins.left.paired.mem_mastersOf_iff.mp (List.mem_reverse.mp found)
                  exact (twins.left.sealed edge).trans here
                · exact others master old

theorem dependsOn_of_calm {node : Node} (calm : node.faults.Calm) (dependent target : ObjectKey) :
    dependsOn dependent target node = (searchMasters (fun key => demand (.masters key)) dependent
        ((node.store.mastersOf target).length + node.store.edges.length) (node.store.mastersOf target).reverse ∅
      >>= fun | some found => return found | none => throw .tooDeep) (node.answered (.masters target)) :=
  bind_of_ok (demand_masters_of_calm calm target)

theorem twin_dependsOn {dependent target : ObjectKey} (home : target.place = place) :
    Twin (Twins place before before') (dependsOn dependent target) := by
  intro a b twins
  have same := twins.agreesAt.mastersOf twins.left.paired twins.right.paired home
  obtain ⟨found, ends, -⟩ := twins.left.paired.search_mastersOf dependent target
  obtain ⟨found', ends', -⟩ := twins.right.paired.search_mastersOf dependent target
  have answered : Twins place before before' (a.answered (.masters target)) (b.answered (.masters target)) :=
    twins.answered home
  rw [Together, dependsOn_of_calm twins.left.calm, dependsOn_of_calm twins.right.calm, same]
  rw [same] at ends'
  refine (together_searchMasters answered ?_ ?_ ?_).bind ?_
  · intro master member
    have edge := twins.left.paired.mem_mastersOf_iff.mp (List.mem_reverse.mp member)
    exact (twins.left.sealed edge).trans home
  · exact fun never => nomatch ends.symm.trans never
  · exact fun never => nomatch ends'.symm.trans never
  · intro answer after after' _ related
    cases answer <;> exact ⟨rfl, related⟩

theorem twins_lockstep : Lockstep (Twins place before before') where
  marked mark twins := twins.marked mark
  alike twins := twins.alike
  withTable twins alike := twins.withTable alike

/-- What keeps to a place ends alike from twins. -/
theorem Coupled.running :
    Running (fun key => key.place = place) fun body => Coupled (Twins place before before') body where
  toServing := twins_lockstep.serving fun _ within => twin_ask within
  dependsOn home := ⟨twin_dependsOn home, (GivesBack.running fun key => key.place = place).dependsOn home⟩

end Twins

end Run

end Provision
