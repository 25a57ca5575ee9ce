import Provision.Proofs.Dependency.AllOrNothing
import Provision.Proofs.Dependency.FailedCreate
import Provision.Proofs.Dependency.Granted

/-! # What a panic leaves in the ledger

Locks and guards are given back on every way out of the engine, edges are not: a reservation takes back
its edge after an error of its scope, and a create after an error of its handler. A panic passes both by.
So the edges that were recorded and not withdrawn before it are there after it.
-/

namespace Provision

open Run Node

/-- Since an earlier moment a reservation has recorded an edge that was not withdrawn after that. -/
def Standing (master slave : ObjectKey) (first last : List Mark) : Prop :=
  ∃ past, first <:+ past ∧ .stored (.link master slave) false :: past <:+ last ∧
    ¬Withdrawn master slave (.stored (.link master slave) false :: past) last

/-- Between two moments an order was not carried out. -/
def Untold (order : StoreCall) (first last : List Mark) : Prop :=
  ∀ past, first <:+ past → ¬.stored order false :: past <:+ last

section Between

variable {master slave : ObjectKey} {order : StoreCall} {mark : Mark} {first mid last past : List Mark}

/-- What happened before a later moment happened before or after one in between. -/
theorem before_or_after (between : mid <:+ last) (before : mark :: past <:+ last) :
    mid <:+ past ∨ mark :: past <:+ mid := by
  rcases List.suffix_or_suffix_of_suffix between before with earlier | later
  · rcases List.suffix_cons_iff.mp earlier with rfl | earlier
    · exact .inr (List.suffix_refl _)
    · exact .inl earlier
  · exact .inr later

theorem Untold.trans (early : Untold order first mid) (late : Untold order mid last)
    (between : mid <:+ last) : Untold order first last := by
  intro past after before
  rcases before_or_after between before with later | earlier
  · exact late past later before
  · exact early past after earlier

theorem untold_append {marks : List Mark} (never : .stored order false ∉ marks) :
    Untold order first (marks ++ first) := by
  rintro past ⟨earlier, rfl⟩ ⟨later, same⟩
  have parts : (later ++ .stored order false :: earlier) ++ first = marks ++ first := by simpa using same
  exact never (by simp [← List.append_cancel_right parts])

theorem Standing.extend (standing : Standing master slave first mid)
    (untold : Untold (.unlink master slave) mid last) (between : mid <:+ last) :
    Standing master slave first last := by
  obtain ⟨past, after, before, kept⟩ := standing
  refine ⟨past, after, before.trans between, fun taken => ?_⟩
  obtain ⟨past', after', before', own⟩ := taken
  rcases before_or_after between before' with later | earlier
  · exact untold past' later before'
  · exact kept ⟨past', after', earlier, own⟩

theorem Standing.cut (standing : Standing master slave first last) (between : mid <:+ last) :
    Standing master slave first mid ∨ Standing master slave mid last := by
  obtain ⟨past, after, before, kept⟩ := standing
  rcases before_or_after between before with later | earlier
  · exact .inr ⟨past, later, before, kept⟩
  · refine .inl ⟨past, after, earlier, fun taken => ?_⟩
    obtain ⟨past', after', before', own⟩ := taken
    exact kept ⟨past', after', before'.trans between, own⟩

theorem Standing.earlier (standing : Standing master slave mid last) (start : first <:+ mid) :
    Standing master slave first last := by
  obtain ⟨past, after, rest⟩ := standing
  exact ⟨past, start.trans after, rest⟩

theorem Untold.not_standing (untold : Untold (.link master slave) first last) :
    ¬Standing master slave first last := by
  intro standing
  obtain ⟨past, after, before, -⟩ := standing
  exact untold past after before

end Between

namespace Node

variable {node after : Node} {call order : StoreCall}

theorem stored_not_mem {marks : List Mark} (idle : ∀ mark ∈ marks, mark.Idle) (orders : ¬order.Reads) :
    .stored order false ∉ marks := by
  intro member
  exact (idle _ member).elim Bool.false_ne_true orders

theorem Consulted.untold (asked : Consulted node after) (orders : ¬order.Reads) :
    Untold order node.history after.history := by
  obtain ⟨marks, told, idle⟩ := asked.history
  rw [told]
  exact untold_append (stored_not_mem idle orders)

theorem Performed.suffix (done : Performed call node after) : node.history <:+ after.history := by
  obtain ⟨later, earlier, told, -, -⟩ := done.history
  exact ⟨later ++ .stored call false :: earlier, by simp [told]⟩

theorem Performed.untold (done : Performed call node after) (orders : ¬order.Reads) (other : order ≠ call) :
    Untold order node.history after.history := by
  obtain ⟨later, earlier, told, idle, idle'⟩ := done.history
  have never : .stored order false ∉ later ++ .stored call false :: earlier := by
    simp [stored_not_mem idle orders, stored_not_mem idle' orders, other]
  rw [told, ← List.cons_append, ← List.append_assoc]
  exact untold_append never

end Node

/-- What is done to the ledger by a run that only reserves things for an object: the edges that the object
    had are let alone, and it gains those that stand in the end. -/
structure Books (key : ObjectKey) (node after : Node) : Prop extends EdgesChangedOnlyOf key node after where
  paired : after.store.Paired
  history : node.history <:+ after.history
  kept : ∀ slave, node.store.Relies key slave → after.store.Relies key slave ∧
    Untold (.link key slave) node.history after.history ∧ Untold (.unlink key slave) node.history after.history
  gained : ∀ slave, ¬node.store.Relies key slave →
    (after.store.Relies key slave ↔ Standing key slave node.history after.history)

namespace Books

variable {key slave : ObjectKey} {node mid after : Node}

theorem trans (first : Books key node mid) (second : Books key mid after) : Books key node after where
  toEdgesChangedOnlyOf := EdgesChangedOnlyOf.lockless.trans first.toEdgesChangedOnlyOf second.toEdgesChangedOnlyOf
  paired := second.paired
  history := first.history.trans second.history
  kept slave old := by
    obtain ⟨between, linked, unlinked⟩ := first.kept slave old
    obtain ⟨last, linked', unlinked'⟩ := second.kept slave between
    exact ⟨last, linked.trans linked' second.history, unlinked.trans unlinked' second.history⟩
  gained slave new := by
    by_cases between : mid.store.Relies key slave
    · obtain ⟨last, -, late⟩ := second.kept slave between
      have early := (first.gained slave new).mp between
      exact iff_of_true last (early.extend late second.history)
    · rw [second.gained slave between]
      constructor
      · exact fun standing => standing.earlier first.history
      · intro standing
        exact (standing.cut second.history).resolve_left fun early =>
          between ((first.gained slave new).mpr early)

/-- Nothing is done where no edge of the object is told of. -/
theorem of_store (paired : node.store.Paired) (same : after.store = node.store)
    (schedule : after.faults.schedule = node.faults.schedule) (history : node.history <:+ after.history)
    (untold : ∀ order, ¬order.Reads → Untold order node.history after.history) : Books key node after where
  toEdgesChangedOnlyOf := .of_store schedule same
  paired := same ▸ paired
  history := history
  kept slave old := ⟨same ▸ old, untold _ id, untold _ id⟩
  gained slave new := by
    rw [same]
    exact iff_of_false new (untold (.link key slave) id).not_standing

theorem consulted (paired : node.store.Paired) (asked : Consulted node after) : Books key node after := by
  obtain ⟨marks, told, -⟩ := asked.history
  exact of_store paired asked.store asked.schedule ⟨marks, told.symm⟩ fun _ => asked.untold

theorem framed {mark : Mark} (paired : node.store.Paired)
    (frame : ∀ order, mark ≠ .stored order false) : Books key node (node.marked mark) := by
  refine of_store paired rfl rfl (List.suffix_cons _ _) fun order _ => ?_
  have told : (node.marked mark).history = [mark] ++ node.history := rfl
  rw [told]
  exact untold_append (by simpa using (frame order).symm)

theorem linked (paired : node.store.Paired) (done : Performed (.link key slave) node after)
    (new : ¬node.store.Relies key slave) : Books key node after := by
  have relies : ∀ other, after.store.Relies key other ↔ other = slave ∨ node.store.Relies key other := by
    intro other
    rw [done.store, MemoryStore.relies_after]
    simp
  refine ⟨.linked done, done.store ▸ paired.after _, done.suffix, fun other old => ?_, fun other lacking => ?_⟩
  · have different : other ≠ slave := by
      rintro rfl
      exact new old
    exact ⟨(relies other).mpr (.inr old), done.untold id (by simpa using different), done.untold id nofun⟩
  · rw [relies, or_iff_left lacking]
    constructor
    · rintro rfl
      obtain ⟨later, earlier, told, idle, -⟩ := done.history
      rw [told]
      refine ⟨earlier ++ node.history, List.suffix_append _ _, List.suffix_append _ _, fun taken => ?_⟩
      obtain ⟨past, behind, before, -⟩ := taken
      exact untold_append (stored_not_mem idle id) past behind before
    · intro standing
      by_contra different
      exact (done.untold id (by simpa using different)).not_standing standing

/-- A reservation takes back its edge. -/
theorem withdrawn (books : Books key node mid) (new : ¬node.store.Relies key slave)
    (done : Performed (.unlink key slave) mid after)
    (own : (underWay mid.history).head? = some { change := .add, recorded := some (key, slave) }) :
    Books key node after := by
  have relies : ∀ other, after.store.Relies key other ↔ mid.store.Relies key other ∧ other ≠ slave := by
    intro other
    rw [done.store, MemoryStore.relies_after]
    simp
  refine ⟨EdgesChangedOnlyOf.lockless.trans books.toEdgesChangedOnlyOf (.unlinked done),
    done.store ▸ books.paired.after _, books.history.trans done.suffix, fun other old => ?_, fun other lacking => ?_⟩
  · have different : other ≠ slave := by
      rintro rfl
      exact new old
    obtain ⟨there, linked, unlinked⟩ := books.kept other old
    exact ⟨(relies other).mpr ⟨there, different⟩, linked.trans (done.untold id nofun) done.suffix,
      unlinked.trans (done.untold id (by simpa using different)) done.suffix⟩
  · rw [relies, books.gained other lacking]
    constructor
    · rintro ⟨standing, different⟩
      exact standing.extend (done.untold id (by simpa using different)) done.suffix
    · intro standing
      have linked : Untold (.link key other) mid.history after.history := done.untold id nofun
      refine ⟨(standing.cut done.suffix).resolve_right linked.not_standing, ?_⟩
      rintro rfl
      obtain ⟨past, -, before, kept⟩ := standing
      obtain ⟨later, earlier, told, -, idle⟩ := done.history
      have early := (before_or_after done.suffix before).resolve_left fun since => linked past since before
      refine kept ⟨earlier ++ mid.history, early.trans (List.suffix_append _ _), ?_, ?_⟩
      · rw [told]
        exact List.suffix_append _ _
      · rw [underWay_idle idle, own]

end Books

/-- What a run does to the ledger that only reserves things for an object, if both sides of the ledger told
    the same. All its dependency operations have ended. -/
def KeepsBooks (key : ObjectKey) (node after : Node) : Prop :=
  node.store.Paired → Books key node after ∧ underWay after.history = underWay node.history

namespace KeepsBooks

variable {key slave : ObjectKey} {node after : Node} {resource : Resource} {scope : Run ActionError RawJson}
  {rest : List Pending}

theorem lockless : Lockless Frame.Inner (KeepsBooks key) where
  refl node paired := ⟨.consulted paired (.refl node), rfl⟩
  trans _ _ _ first second paired := by
    obtain ⟨books, before⟩ := first paired
    obtain ⟨further, after⟩ := second books.paired
    exact ⟨books.trans further, after.trans before⟩
  consulted asked paired := ⟨.consulted paired asked, asked.underWay⟩
  began node frame inner paired := by
    refine ⟨.framed paired nofun, ?_⟩
    cases frame with
    | dependency => exact inner.elim
    | dispatch | handler | scope => rfl
  ended node frame inner paired := by
    refine ⟨.framed paired nofun, ?_⟩
    cases frame with
    | dependency => exact inner.elim
    | dispatch | handler | scope => rfl
  table node scope _ paired := by
    have same : ∀ after, after.store = node.store → after.faults = node.faults →
        after.history = node.history → Books key node after := by
      intro after store faults history
      refine .of_store paired store (by rw [faults]) (history ▸ List.suffix_refl _) fun order _ => ?_
      rw [history, ← List.nil_append node.history]
      exact untold_append nofun
    exact ⟨same _ store_withTable faults_withTable history_withTable, by rw [history_withTable]⟩

/-- A reservation that is granted has recorded its edge, or it was there. -/
theorem checked {recorded : Bool} (start : underWay node.history = { change := .add } :: rest)
    (known : Checked resource key slave node (.ok recorded) after) (paired : node.store.Paired) :
    Books key node after ∧ underWay after.history =
      { change := .add, recorded := if recorded then some (key, slave) else none } :: rest ∧
        (recorded = true → ¬node.store.Relies key slave) := by
  cases known with
  | present _ reserved =>
      cases reserved with
      | known asked => exact ⟨.consulted paired asked, asked.underWay.trans start, nofun⟩
      | recorded done _ new =>
          refine ⟨.linked paired done new, ?_, fun _ => new⟩
          rw [done.underWay, start]
          rfl

theorem reserves (keeps : Keeps (KeepsBooks key) scope)
    (start : underWay node.history = { change := .add } :: rest)
    (course : Engine.Reserves resource key slave scope node after) (paired : node.store.Paired) :
    Books key node after ∧ ∃ first, underWay after.history = first :: rest := by
  cases course with
  | refused known => exact ⟨.consulted paired known.asked, _, known.asked.underWay.trans start⟩
  | kept known ran asked =>
      obtain ⟨granted, told, -⟩ := checked start known paired
      have during := lockless.framed keeps (.refl _) ran trivial
      obtain ⟨books, same⟩ := lockless.trans during (lockless.consulted asked) granted.paired
      exact ⟨granted.trans books, _, same.trans told⟩
  | withdrawn known ran undone =>
      obtain ⟨granted, told, new⟩ := checked start known paired
      have during := lockless.framed keeps (.refl _) ran trivial
      obtain ⟨books, same⟩ := during granted.paired
      have still := same.trans told
      refine ⟨(granted.trans books).withdrawn (new rfl) undone ?_, _, undone.underWay.trans still⟩
      rw [still]
      rfl

theorem addDependency {engine : Engine} (keeps : Keeps (KeepsBooks key) scope) :
    Keeps (KeepsBooks key) (engine.addDependency key slave scope) := by
  refine lockless.addDependency fun node resource record _ _ _ paired => ?_
  have start : Books key node node := .consulted paired (.refl node)
  refine ends_dependency (fun _ books => books.trans (.framed books.paired nofun))
    (fun _ books => books.trans (.framed books.paired nofun))
    (fun mid table books => books.trans (lockless.table mid .shared table books.paired).1)
    (fun mid rest books told => ?_) start
  refine (Engine.ends_holdReservation books.paired).imp fun _ after course => ?_
  obtain ⟨further, known⟩ := reserves keeps told course books.paired
  exact ⟨books.trans further, known⟩

theorem upheld (engine : Engine) :
    Upheld engine (fun _ => False) (fun _ => ReservesFor key) fun _ => KeepsBooks key where
  refl _ := lockless.refl
  trans first second := lockless.trans first second
  note _ _ _ := lockless.consulted (.marked trivial)
  ask _ _ may _ := ends_ask (fun _ _ _ => lockless.consulted)
    fun _ done => lockless.consulted (done.ofReads may)
  dispatch _ _ _ _ _ known := known.elim
  add _ master slave body may keeps := by
    obtain ⟨-, rfl⟩ := may
    exact addDependency keeps
  remove _ _ _ _ may := nomatch may.1

end KeepsBooks

/-! ## Locks are given back -/

/-- The guards and locks of a table that were taken have been given back. -/
def GivesBackIn (scope : GuardScope) (node after : Node) : Prop :=
  (node.table scope).Sound → (after.table scope).Sound ∧ (node.table scope).Agrees (after.table scope)

/-- A run that gives back what it takes lets go of a lock that is held around it. -/
theorem Run.ends_guarded_of_gives {ε α : Type} {scope : GuardScope} {key : ObjectKey} {mode : LockMode}
    {body : Run ε α} {node : Node} {post : Except (Halt ε) α → Node → Prop}
    (gives : Keeps (GivesBackIn scope) body) (sound : (node.table scope).Sound)
    (waits : post (.error (.waits key)) node)
    (runs : ∀ held, body.Ends (node.withTable scope held) fun result after =>
      ∀ left, (node.table scope).Agrees left → left.Sound → post result (after.withTable scope left)) :
    (guarded scope key mode body).Ends node post := by
  refine Ends.guarded sound (fun _ => waits) fun hold held taken => ?_
  obtain ⟨kept, agrees⟩ := gives (node.withTable scope held) (by
    rw [table_withTable]
    exact GuardTable.Sound.take? taken sound)
  rw [table_withTable] at agrees
  exact ⟨agrees, kept, runs held⟩

/-- The table of an unregistered resource is as it was. -/
def SameOwn (node after : Node) : Prop := after.ownGuards = node.ownGuards

namespace SameOwn

theorem framing : Framing (fun _ => True) SameOwn where
  refl _ := rfl
  trans _ _ _ first second := Eq.trans second first
  consulted asked := asked.ownGuards
  began _ _ _ := rfl
  ended _ _ _ := rfl

theorem guarded {ε α : Type} {key : ObjectKey} {mode : LockMode} {body : Run ε α}
    (keeps : Keeps SameOwn body) : Keeps SameOwn (guarded .shared key mode body) := by
  intro node
  rw [ends_guarded]
  split
  · exact rfl
  · next hold held _ =>
      refine (keeps _).imp fun _ after same => ?_
      split <;> exact same

theorem running (known : ObjectKey → Prop) : Running known fun body => Keeps SameOwn body where
  toAsking := framing.asking fun _ done => done.ownGuards
  within _ _ keeps _ := framing.within trivial (keeps _)
  guarded _ keeps := SameOwn.guarded keeps
  panicking _ := Keeps.throw framing.refl _
  tooDeep := Keeps.throw framing.refl _
  look _ node := framing.refl node

/-- What runs in an engine takes the locks of the engine only. -/
theorem run {engine : Engine} (built : engine.Built) (depth : Nat) (program : Program) :
    Keeps SameOwn (engine.run depth program) := by
  have confined : ∀ program : Program, program.Confined (Deed.Within fun _ => True) :=
    fun _ => Program.confined_of_all (Deed.within_of_all fun _ => trivial) _
  have calls : ∀ call : Call, True → Keeps SameOwn (engine.call depth call) :=
    (running fun _ => True).call built (fun _ _ _ _ _ _ _ _ => confined _) depth
  exact (running fun _ => True).program_run calls (confined program)

end SameOwn

theorem GivesBackIn.of_both {ε α : Type} {body : Run ε α} (gives : Keeps GivesBack body)
    (same : Keeps SameOwn body) (scope : GuardScope) : Keeps (GivesBackIn scope) body := by
  cases scope with
  | shared => exact gives
  | own =>
      refine fun node => (same node).imp fun _ after still sound => ?_
      rw [Node.table, still]
      exact ⟨sound, .refl _⟩

theorem GivesBackIn.run {engine : Engine} (built : engine.Built) (scope : GuardScope) {depth : Nat}
    {resource : Resource} {key : ObjectKey} {request : Request} {action : Action} :
    Keeps (GivesBackIn scope) (resource.holdDispatch (engine.run depth) key request action) :=
  of_both (GivesBack.framing.holdDispatch GivesBack.performed GivesBack.performed trivial
      (GivesBack.run built depth _))
    (SameOwn.framing.holdDispatch (fun done => done.ownGuards) (fun done => done.ownGuards) trivial
      (SameOwn.run built depth _)) scope

/-! ## Panics of a reservation -/

theorem Run.caught_eq_panic {ε ε' α : Type} {outcome : Except (Halt ε') α} {message : String}
    (same : caught outcome = (.error (.panic message) : Except (Halt ε) _)) :
    outcome = .error (.panic message) := by
  cases outcome with
  | ok => cases same
  | error halt => cases halt <;> cases same; rfl

section Reservation

variable {engine : Engine} {resource : Resource} {master slave : ObjectKey} {node : Node}
  {scope : Run ActionError RawJson}

/-- A scope panicked on a node with the edge of its reservation, and nothing was done to the store after
    that. -/
def Strands (master slave : ObjectKey) (scope : Run ActionError RawJson) (store : MemoryStore)
    (message : String) (after : Node) : Prop :=
  ∃ inside done, store.Gains master slave inside.store ∧
    scope inside = (.error (.panic message), done) ∧ after.store = done.store

theorem ends_checkAndReserve_gains (paired : node.store.Paired) :
    (Engine.checkAndReserve resource master slave).Ends node fun result mid =>
      match result with
      | .ok _ => node.store.Gains master slave mid.store
      | .error halt => ∃ error, halt = .error error := by
  refine (ends_checkAndReserve paired).imp fun result mid checked => ?_
  cases checked with
  | absent | failed => exact ⟨_, rfl⟩
  | present _ reserved =>
      cases reserved with
      | failed | cyclic | taken => exact ⟨_, rfl⟩
      | known asked _ old =>
          rw [asked.store]
          exact .of_relies old
      | recorded done =>
          rw [done.store]
          exact MemoryStore.gains_link

theorem ends_holdReservation_panic (paired : node.store.Paired) :
    (Engine.holdReservation resource master slave scope).Ends node fun result after =>
      ∀ message, result = .error (.panic message) →
        Strands master slave scope node.store message after := by
  have checks : ((Engine.checkAndReserve resource master slave).mapError ActionError.engine).Ends node
      fun result mid => match result with
        | .ok _ => node.store.Gains master slave mid.store
        | .error halt => ∃ error, halt = .error error := by
    rw [ends_mapError]
    refine (ends_checkAndReserve_gains paired).imp fun result mid gains => ?_
    cases result with
    | ok => exact gains
    | error =>
        obtain ⟨error, rfl⟩ := gains
        exact ⟨_, rfl⟩
  apply checks.bind
  · intro recorded mid gains
    apply ends_attempt_within.bind
    · rintro outcome _ ⟨outcome', done, ran, same, rfl⟩
      cases outcome with
      | ok => exact fun _ => nofun
      | error =>
          apply ends_withdraw.bind
          · exact fun _ _ _ _ => nofun
          · rintro _ _ ⟨⟨⟩, -⟩
    · rintro halt _ ⟨outcome, done, ran, same, rfl⟩ message panics
      cases panics
      refine ⟨mid.marked (.began (.scope .add slave)), done, gains, ?_, rfl⟩
      rw [ran, caught_eq_panic same.symm]
  · rintro halt mid ⟨error, rfl⟩ message
    exact nofun

/-- Where a reservation panics, its scope did, and the edge was there. -/
theorem addDependency_panic (built : engine.Built) {depth : Nat} {program : Program}
    (paired : node.store.Paired) (sound : node.guards.Sound) {message : String} {after : Node}
    (panicked : engine.addDependency master slave (engine.run depth program) node =
      (.error (.panic message), after)) :
    Strands master slave (engine.run depth program) node.store message after := by
  have ends : (engine.addDependency master slave (engine.run depth program)).Ends node fun result after =>
      ∀ message, result = .error (.panic message) →
        Strands master slave (engine.run depth program) node.store message after := by
    apply Engine.ends_resolve.bind
    · rintro resource mid ⟨asked, -⟩
      rw [← asked.store]
      rw [← asked.store] at paired
      rw [← asked.guards] at sound
      have gives : Keeps GivesBack
          (Engine.holdReservation resource master slave (engine.run depth program)) :=
        GivesBack.framing.holdReservation GivesBack.performed GivesBack.performed trivial
          (GivesBack.run built depth program)
      rw [Engine.addResolved_eq, ends_within]
      refine ends_guarded_of_gives gives sound (fun _ => nofun) fun held => ?_
      have strands : (Engine.holdReservation resource master slave (engine.run depth program)).Ends
          ((mid.marked (.began (.dependency .add slave))).withTable .shared held) fun result after =>
            ∀ message, result = .error (.panic message) →
              Strands master slave (engine.run depth program) mid.store message after :=
        ends_holdReservation_panic paired
      exact strands.imp fun _ _ left _ _ _ => left
    · rintro halt mid ⟨-, error, rfl, -⟩ message
      exact nofun
  exact ends.of_eq panicked message rfl

end Reservation

/-- Where a call panics, its handler did, and what it has done to the ledger stays. -/
theorem dispatch_panic {engine : Engine} (built : engine.Built) {depth : Nat} {resource : Resource}
    {key : ObjectKey} {request : Request} {action : Action} {node after : Node} {message : String}
    (paired : node.store.Paired) (sound : (node.table resource.guards).Sound)
    (described : resource.action? request.action = some action)
    (reserves : (action.handler key request.payload).Confined (ReservesFor key))
    (panicked : resource.dispatch (engine.run depth) key request node = (.error (.panic message), after)) :
    Books key node after := by
  have lockless : Lockless Frame.Inner (KeepsBooks key) := KeepsBooks.lockless
  have keeps : Keeps (KeepsBooks key) (engine.run depth (action.handler key request.payload)) :=
    (KeepsBooks.upheld engine).program_run .caller (fun _ never => never.elim) reserves
  have ends : (resource.dispatch (engine.run depth) key request).Ends node fun result after =>
      ∀ message, result = .error (.panic message) → KeepsBooks key node after := by
    rw [Resource.dispatch_eq, described, ends_within]
    refine ends_guarded_of_gives (GivesBackIn.run built _) (by rwa [table_marked]) (fun _ => nofun) fun held => ?_
    refine Resource.concludes_holdDispatch.imp fun result last course left _ _ message panics => ?_
    subst panics
    cases course with
    | halted handles =>
        obtain ⟨⟨mid, passed, ran⟩, -, -⟩ := handles
        have before := lockless.trans (lockless.began node (resource.dispatchFrame key request action) trivial)
          (lockless.table _ resource.guards held)
        have during := lockless.framed keeps passed ran trivial
        have unlocked := lockless.trans (lockless.trans before during) (lockless.table _ resource.guards left)
        exact lockless.trans unlocked (lockless.ended _ (resource.dispatchFrame key request action) trivial)
  exact (ends.of_eq panicked message rfl paired).1

/-- Locks are given back on every way out of the engine, but a panic takes back no edge. Where a reservation
    panics, its scope did, on a node with the edge, and the ledger stays as the scope left it. Where a call
    panics whose handler only reserves things for its object, the object has gained those edges that were
    recorded and not withdrawn by an error before the panic. So the ledger is as it was just if there are
    none. -/
theorem panic_keeps_recorded {engine : Engine} (built : engine.Built) (depth : Nat) {node : Node}
    (paired : node.store.Paired) (sound : ∀ scope, (node.table scope).Sound) :
    (∀ master slave program message after,
      engine.addDependency master slave (engine.run depth program) node = (.error (.panic message), after) →
        Strands master slave (engine.run depth program) node.store message after) ∧
    ∀ (resource : Resource) key request action message after,
      resource.action? request.action = some action →
      (action.handler key request.payload).Confined (ReservesFor key) →
      resource.dispatch (engine.run depth) key request node = (.error (.panic message), after) →
        after.store.records = node.store.records ∧
        (∀ master slave, after.store.Relies master slave ↔ node.store.Relies master slave ∨
          master = key ∧ Standing key slave node.history after.history) ∧
        ((∀ master slave, after.store.Relies master slave ↔ node.store.Relies master slave) ↔
          ∀ slave, ¬Standing key slave node.history after.history) := by
  refine ⟨fun master slave program message after => addDependency_panic built paired (sound .shared), ?_⟩
  intro resource key request action message after described reserves panicked
  have books : Books key node after := dispatch_panic built paired (sound _) described reserves panicked
  have standing : ∀ slave, Standing key slave node.history after.history → ¬node.store.Relies key slave :=
    fun slave standing old => (books.kept slave old).2.1.not_standing standing
  have edges : ∀ master slave, after.store.Relies master slave ↔ node.store.Relies master slave ∨
      master = key ∧ Standing key slave node.history after.history := by
    intro master slave
    by_cases own : master = key
    · subst own
      by_cases old : node.store.Relies master slave
      · exact iff_of_true (books.kept slave old).1 (.inl old)
      · rw [books.gained slave old, or_iff_right old, and_iff_right rfl]
    · rw [books.edges master slave own]
      exact (or_iff_left fun both => own both.1).symm
  refine ⟨books.records, edges, fun same slave stands => ?_, fun none' master slave => ?_⟩
  · exact standing slave stands ((same key slave).mp ((edges key slave).mpr (.inr ⟨rfl, stands⟩)))
  · rw [edges]
    exact or_iff_left fun both => none' slave both.2

namespace Small

/-- Two disks that are free. -/
def furnished : Node where
  store := (MemoryStore.empty.write (object "a") ⟨"disk", []⟩).write (object "b") ⟨"disk", []⟩

theorem furnished_paired : furnished.store.Paired :=
  (MemoryStore.paired_empty.after (.write _ _)).after (.write _ _)

theorem furnished_sound (scope : GuardScope) : (furnished.table scope).Sound := by
  cases scope <;> exact GuardTable.sound_empty

/-- Creating reserves a disk, gives up the reservation of another one, and panics then. -/
def panicking : Resource where
  name := "vm"
  flags := .exclusive
  actions := [("create", ⟨fun key _ => .depend .add key (object "a") (.done (.ok .null)) fun _ =>
    .depend .add key (object "b") (.done (.error (.failed "no capacity"))) fun _ => .panic "no memory",
    .create⟩)]

theorem panicking_reserves {name : String} {action : Action} (found : panicking.action? name = some action)
    (key : ObjectKey) (payload : RawJson) :
    action.flags.requiresNew = true ∧ (action.handler key payload).Confined (ReservesFor key) := by
  have member := Resource.mem_of_action? found
  simp only [panicking, List.mem_singleton, Prod.mk.injEq] at member
  obtain ⟨-, rfl⟩ := member
  exact ⟨rfl, ⟨rfl, rfl⟩, trivial, fun _ => ⟨⟨rfl, rfl⟩, trivial, fun _ => trivial⟩⟩

/-- The creation that panics. -/
def panicked : Except (Halt EngineError) Response × Node :=
  panicking.dispatch (engine.run 9) (object "vm") { action := "create", object := "vm" } furnished

theorem panicked_fst : panicked.1 = .error (.panic "no memory") := by decide +kernel

/-- A reservation of a caller whose scope panics. -/
def stranded : Except (Halt ActionError) RawJson × Node :=
  engine.addDependency (object "vm") (object "a") (engine.run 9 (.panic "no memory")) furnished

theorem stranded_fst : stranded.1 = .error (.panic "no memory") := by decide +kernel

end Small

/-- The edge that was recorded before the panic is there after it, be it of a create without a record or of a
    reservation of a caller. -/
theorem panic_strands_disk :
    (∀ name action, Small.panicking.action? name = some action → ∀ key payload,
      action.flags.requiresNew = true ∧ (action.handler key payload).Confined (ReservesFor key)) ∧
    ¬Small.furnished.store.Relies (Small.object "vm") (Small.object "a") ∧
    (Small.panicked.1 = .error (.panic "no memory") ∧
      Small.panicked.2.store.hasRecord (Small.object "vm") = false ∧
      Small.panicked.2.store.Relies (Small.object "vm") (Small.object "a")) ∧
    Small.stranded.1 = .error (.panic "no memory") ∧
      Small.stranded.2.store.Relies (Small.object "vm") (Small.object "a") :=
  ⟨fun _ _ found => Small.panicking_reserves found, by decide +kernel,
    ⟨Small.panicked_fst, by decide +kernel, by decide +kernel⟩, Small.stranded_fst, by decide +kernel⟩

/-- The general statement for this creation: the one disk stays reserved, and the other one is free. -/
theorem panic_keeps_recorded_disk :
    (Small.engine.Built ∧ Small.furnished.store.Paired ∧ (∀ scope, (Small.furnished.table scope).Sound) ∧
      (∃ action, Small.panicking.action? "create" = some action ∧
        (action.handler (Small.object "vm") .null).Confined (ReservesFor (Small.object "vm"))) ∧
      Small.panicked.1 = .error (.panic "no memory") ∧ Small.stranded.1 = .error (.panic "no memory")) ∧
    Strands (Small.object "vm") (Small.object "a") (Small.engine.run 9 (.panic "no memory"))
      Small.furnished.store "no memory" Small.stranded.2 ∧
    Standing (Small.object "vm") (Small.object "a") Small.furnished.history Small.panicked.2.history ∧
    ¬Standing (Small.object "vm") (Small.object "b") Small.furnished.history Small.panicked.2.history := by
  obtain ⟨action, described⟩ : ∃ action, Small.panicking.action? "create" = some action := ⟨_, rfl⟩
  have reserves := (Small.panicking_reserves described (Small.object "vm") .null).2
  have returned : Small.panicked = (.error (.panic "no memory"), Small.panicked.2) := by
    rw [← Small.panicked_fst]
  have halted : Small.stranded = (.error (.panic "no memory"), Small.stranded.2) := by
    rw [← Small.stranded_fst]
  obtain ⟨reservations, calls⟩ :=
    panic_keeps_recorded Small.engine_built 9 Small.furnished_paired Small.furnished_sound
  obtain ⟨-, edges, -⟩ := calls _ _ _ _ _ _ described reserves returned
  refine ⟨⟨Small.engine_built, Small.furnished_paired, Small.furnished_sound, ⟨action, described, reserves⟩,
    Small.panicked_fst, Small.stranded_fst⟩, reservations _ _ _ _ _ halted, ?_, ?_⟩
  · have left : Small.panicked.2.store.Relies (Small.object "vm") (Small.object "a") := by decide +kernel
    have new : ¬Small.furnished.store.Relies (Small.object "vm") (Small.object "a") := by decide +kernel
    exact (((edges _ _).mp left).resolve_left new).2
  · intro standing
    have gone : ¬Small.panicked.2.store.Relies (Small.object "vm") (Small.object "b") := by decide +kernel
    exact gone ((edges _ _).mpr (.inr ⟨rfl, standing⟩))

end Provision
