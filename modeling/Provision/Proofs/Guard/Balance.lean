import Provision.Proofs.Engine.Operating
import Provision.Proofs.Guard.Holders

/-! # Guards and locks are balanced

Whatever an operation runs into, it gives back the guards and the locks that it took. So at each point
of a run just the frames around it are out, each with one guard and one hold of its object: a step gives
back what it takes, and the only way further in is to open a frame, which takes one lock.
-/

namespace Provision

open Run Node

/-- The same guards are out after as before, and the same locks are held. -/
def GivesBack (node after : Node) : Prop :=
  node.guards.Sound → after.guards.Sound ∧ node.guards.Agrees after.guards

namespace GivesBack

variable {node after : Node} {order : StoreCall} {engine : Engine}

theorem of_guards (same : after.guards = node.guards) : GivesBack node after := by
  intro sound
  rw [same]
  exact ⟨sound, .refl _⟩

theorem framing : Framing (fun _ => True) GivesBack where
  refl node := of_guards rfl
  trans _ _ _ first second sound := by
    obtain ⟨between, before⟩ := first sound
    obtain ⟨last, rest⟩ := second between
    exact ⟨last, before.trans rest⟩
  consulted asked := of_guards asked.guards
  began _ _ _ := of_guards rfl
  ended _ _ _ := of_guards rfl

theorem performed (done : Performed order node after) : GivesBack node after := of_guards done.guards

theorem guarded {ε α : Type} {key : ObjectKey} {mode : LockMode} {body : Run ε α}
    (keeps : Keeps GivesBack body) : Keeps GivesBack (guarded .shared key mode body) := by
  intro node
  by_cases sound : node.guards.Sound
  · refine Ends.guarded sound (fun _ => framing.refl node) fun hold held taken => ?_
    refine (keeps _).imp fun _ after gives => ?_
    obtain ⟨kept, agrees⟩ := gives (GuardTable.Sound.take? taken sound)
    exact ⟨agrees, kept, fun left same known _ => ⟨known, same⟩⟩
  · exact fun known => absurd known sound

theorem guarded_of_taken {ε α : Type} {key : ObjectKey} {mode : LockMode} {body : Run ε α} {hold : Hold}
    {held : GuardTable} (keeps : Keeps GivesBack body) (sound : node.guards.Sound)
    (taken : node.guards.take? key.text mode = some (hold, held)) :
    ∃ left, node.guards.Agrees left ∧ left.Sound ∧ Run.guarded .shared key mode body node =
      ((body (node.withTable .shared held)).1, (body (node.withTable .shared held)).2.withTable .shared left) := by
  have gives := keeps (node.withTable .shared held)
  obtain ⟨kept, agrees⟩ := gives (GuardTable.Sound.take? taken sound)
  obtain ⟨left, leaves, same, known⟩ := GuardTable.leave?_take? taken sound agrees kept
  exact ⟨left, same, known, guarded_of_leaves taken leaves⟩

theorem within {ε α : Type} {frame : Frame} {body : Run ε α} (keeps : Keeps GivesBack body) :
    Keeps GivesBack (within frame body) := fun _ => framing.within trivial (keeps _)

/-- Every operation gives back what it took, whatever fails and whatever its bodies do. -/
theorem running (known : ObjectKey → Prop) : Running known fun body => Keeps GivesBack body where
  toAsking := framing.asking fun _ => performed
  within _ _ keeps := GivesBack.within keeps
  guarded _ keeps := GivesBack.guarded keeps
  panicking _ := Keeps.throw framing.refl _
  tooDeep := Keeps.throw framing.refl _
  look _ node := framing.refl node

section Built

variable (built : engine.Built)

include built

theorem call (depth : Nat) (call : Call) : Keeps GivesBack (engine.call depth call) :=
  (running fun _ => True).call built
    (fun _ _ _ _ _ _ _ _ => Program.confined_of_all (Deed.within_of_all fun _ => trivial) _) depth call trivial

theorem run (depth : Nat) (program : Program) : Keeps GivesBack (engine.run depth program) :=
  (running fun _ => True).program_run (fun other _ => call built depth other)
    (program.confined_of_all (Deed.within_of_all fun _ => trivial))

theorem step (depth : Nat) (program : Program) :
    Keeps GivesBack (program.step engine (engine.call depth)) :=
  (running fun _ => True).program_step (fun other _ => call built depth other)
    (program.confined_of_all (Deed.within_of_all fun _ => trivial))

end Built

end GivesBack

/-- Frames have their guards and locks on top of those that there were before, and writers are alone. -/
structure GuardTable.Carries (before : GuardTable) (frames : List Frame) (now : GuardTable) : Prop where
  sound : now.Sound
  exclusion : now.Exclusion
  counted : ∀ id, now.refCount id = before.refCount id + (framesOn id frames).length
  holders : ∀ id, now.holders id = (framesOn id frames).map Frame.mode ++ before.holders id

namespace GuardTable.Carries

variable {before between now held : GuardTable} {outer frames : List Frame} {frame : Frame} {hold : Hold}

theorem refl (sound : now.Sound) (exclusion : now.Exclusion) : now.Carries [] now :=
  ⟨sound, exclusion, fun _ => rfl, fun _ => rfl⟩

/-- Frames are listed innermost first, so what was taken later stands before what was taken earlier. -/
theorem trans (first : before.Carries outer between) (second : between.Carries frames now) :
    before.Carries (frames ++ outer) now where
  sound := second.sound
  exclusion := second.exclusion
  counted id := by
    rw [second.counted, first.counted, framesOn, framesOn, framesOn, List.filter_append,
      List.length_append]
    omega
  holders id := by
    rw [second.holders, first.holders, framesOn, framesOn, framesOn, List.filter_append,
      List.map_append, List.append_assoc]

theorem of_take? (taken : now.take? frame.object.text frame.mode = some (hold, held))
    (sound : now.Sound) (exclusion : now.Exclusion) : now.Carries [frame] held where
  sound := Sound.take? taken sound
  exclusion := Exclusion.take? taken sound exclusion
  counted id := by
    rw [refCount_take? taken]
    by_cases same : frame.object.text = id <;> simp [framesOn, same]
  holders id := by
    rw [holders_take? taken sound]
    by_cases same : frame.object.text = id <;> simp [framesOn, same]

end GuardTable.Carries

namespace Point

variable {engine : Engine} {point start moment : Point} {frame : Frame} {frames : List Frame}

/-- To open a frame is to take the lock of its object. -/
theorem Opens.takes (built : engine.Built) (opens : Opens engine point frame start) :
    ∃ hold, point.node.guards.take? frame.object.text frame.mode = some (hold, start.node.guards) := by
  cases opens with
  | @handler depth request next node mid resource action hold held registered described taken passed =>
      have shared := built.guards (Engine.mem_of_resource? registered).1
      rw [shared] at taken passed
      have asked := Resource.ends_checkTarget.of_eq passed
      exact ⟨hold, asked.1.guards.symm ▸ taken⟩
  | @reservation depth master slave scope next node looked mid resource hold held recorded resolved taken
      checked =>
      have asked := Engine.ends_resolve.of_eq resolved
      have course := Engine.ends_checkAndReserve_any.of_eq checked
      have kept := course.elim Consulted.guards fun linked => linked.2.guards
      rw [asked.1.guards] at taken
      exact ⟨hold, kept.symm ▸ taken⟩
  | release found taken =>
      have asked := ends_resourceOf.of_eq found
      rw [asked.1.guards] at taken
      exact ⟨_, taken⟩

/-- What is out at a point of a run is what was out at its start, and what the frames between took. -/
theorem Passes.carries (built : engine.Built) (passes : Passes engine point frames moment)
    (sound : point.node.guards.Sound) (exclusion : point.node.guards.Exclusion) :
    point.node.guards.Carries frames moment.node.guards := by
  induction passes with
  | here point => exact .refl sound exclusion
  | inside opens _ ih =>
      obtain ⟨hold, taken⟩ := opens.takes built
      have opened := GuardTable.Carries.of_take? taken sound exclusion
      exact opened.trans (ih opened.sound opened.exclusion)
  | @onward point moment rest after frames steps _ ih =>
      obtain ⟨kept, agrees⟩ := (GivesBack.step built _ _).of_eq steps sound
      have carries := ih kept (agrees.exclusion exclusion)
      refine ⟨carries.sound, carries.exclusion, fun id => ?_, fun id => ?_⟩
      · rw [carries.counted, agrees.refCount]
      · rw [carries.holders, agrees.holders]

/-- Just dispatches and dependency operations are open around a point. -/
theorem Passes.dispatch_or_dependency (passes : Passes engine point frames moment) : ∀ frame ∈ frames,
    (∃ span mode, frame = .dispatch span mode) ∨ ∃ change slave, frame = .dependency change slave := by
  induction passes with
  | here => simp
  | inside opens _ ih =>
      intro frame member
      rcases List.mem_append.mp member with inner | outer
      · exact ih frame inner
      · rw [List.mem_singleton.mp outer]
        cases opens with
        | handler => exact .inl ⟨_, _, rfl⟩
        | reservation | release => exact .inr ⟨_, _, rfl⟩
  | onward _ _ ih => exact ih

end Point

/-- An id is guarded and locked by the open frames on it, and nobody else has its lock. -/
structure GuardTable.Balanced (before : GuardTable) (frames : List Frame) (now : GuardTable)
    (id : String) : Prop where
  counted : now.refCount id = before.refCount id + (framesOn id frames).length
  held : now.holders id = (framesOn id frames).map Frame.mode
  exclusive : (now.view id).state = .exclusive ↔
    ∃ span, .dispatch span .exclusive ∈ framesOn id frames
  alone : (now.view id).state = .exclusive → now.holders id = [.exclusive] ∧
    ∃ span, framesOn id frames = [.dispatch span .exclusive]
  shared : (now.view id).state = .shared ↔ ∃ frame ∈ framesOn id frames, frame.mode = .shared

/-- What is out on top of free locks is balanced. -/
theorem GuardTable.Carries.balanced {before now : GuardTable} {frames : List Frame}
    (carries : before.Carries frames now) (free : before.holds = [])
    (known : ∀ frame ∈ frames,
      (∃ span mode, frame = .dispatch span mode) ∨ ∃ change slave, frame = .dependency change slave)
    (id : String) : before.Balanced frames now id := by
  have holders : now.holders id = (framesOn id frames).map Frame.mode := by
    rw [carries.holders, holders_of_free free, List.append_nil]
  have writes : ∀ frame ∈ framesOn id frames, frame.mode = .exclusive →
      ∃ span, frame = .dispatch span .exclusive := by
    intro frame member writer
    obtain ⟨span, mode, rfl⟩ | ⟨change, slave, rfl⟩ := known frame (List.mem_filter.mp member).1
    · exact ⟨span, congrArg (Frame.dispatch span) writer⟩
    · cases writer
  constructor
  · exact carries.counted id
  · exact holders
  · rw [view_eq_exclusive_iff, holders, List.mem_map]
    constructor
    · rintro ⟨frame, member, writer⟩
      obtain ⟨span, rfl⟩ := writes frame member writer
      exact ⟨span, member⟩
    · rintro ⟨span, member⟩
      exact ⟨_, member, rfl⟩
  · intro locked
    have single := carries.exclusion id (view_eq_exclusive_iff.mp locked)
    refine ⟨single, ?_⟩
    obtain ⟨frame, only, writer⟩ := List.map_eq_singleton_iff.mp (holders.symm.trans single)
    obtain ⟨span, rfl⟩ := writes frame (by simp [only]) writer
    exact ⟨span, only⟩
  · rw [view_eq_shared_iff, ← List.mem_map, ← holders]
    refine and_iff_right_of_imp fun reader writer => ?_
    rw [carries.exclusion id writer] at reader
    simp at reader

/-- At every point of every run that starts with no lock held, an id has a guard for each dispatch and
    each dependency operation on it that is open, and is locked as these lock it; a writer is alone. The
    run ends, in whatever way, with the guards that there were at its start and with no lock held. -/
theorem run_balanced {engine : Engine} (built : engine.Built) (depth : Nat) (program : Program)
    {node : Node} (sound : node.guards.Sound) (free : node.guards.holds = []) :
    (∀ frames moment, Point.Passes engine ⟨depth, program, node⟩ frames moment →
      ∀ id, node.guards.Balanced frames moment.node.guards id) ∧
    (engine.run depth program node).2.guards.entries = node.guards.entries ∧
    (engine.run depth program node).2.guards.holds = [] := by
  refine ⟨fun frames moment passes => ?_, ?_⟩
  · have carries := passes.carries built sound (GuardTable.exclusion_of_free free)
    exact carries.balanced free passes.dispatch_or_dependency
  · obtain ⟨-, agrees⟩ := GivesBack.run built depth program node sound
    exact ⟨agrees.entries, agrees.holds.trans free⟩

namespace Small

/-- A network is stored, and a guard of it is out. -/
def guardedNode : Node where
  store := MemoryStore.empty.write (object "n") ⟨"network", []⟩
  guards := (GuardTable.empty.enter (object "n").text).2

/-- The frames around the handler that creates the disk. -/
def creatingFrames : List Frame :=
  [.dispatch ⟨"disk", "create", object "a"⟩ .exclusive, .dependency .add (object "n")]

theorem passes_creating :
    ∃ moment, Point.Passes engine ⟨9, creating, guardedNode⟩ creatingFrames moment := by
  have both : ∃ start moment,
      Point.Opens engine ⟨9, creating, guardedNode⟩ (.dependency .add (object "n")) start ∧
      Point.Opens engine start (.dispatch ⟨"disk", "create", object "a"⟩ .exclusive) moment :=
    ⟨_, _, .reservation (Prod.ext rfl rfl) rfl (Prod.ext rfl rfl),
      @Point.Opens.handler engine 8 _ _ _ _ { resource "disk" .exclusive with guards := .shared }
        ⟨create "disk", .create⟩ _ _ rfl rfl rfl (Prod.ext rfl rfl)⟩
  obtain ⟨start, moment, outer, inner⟩ := both
  exact ⟨moment, .inside outer (.inside inner (.here moment))⟩

end Small

/-- Inside both frames the network has one guard more than before and is locked for reading, and the
    disk is locked for writing. -/
theorem run_balanced_creating :
    (Small.engine.Built ∧ Small.guardedNode.guards.Sound ∧ Small.guardedNode.guards.holds = []) ∧
    ∃ moment, Point.Passes Small.engine ⟨9, Small.creating, Small.guardedNode⟩ Small.creatingFrames
        moment ∧
      moment.node.guards.refCount (Small.object "n").text = 2 ∧
      (moment.node.guards.view (Small.object "n").text).state = .shared ∧
      (moment.node.guards.view (Small.object "a").text).state = .exclusive := by
  have sound : Small.guardedNode.guards.Sound := GuardTable.sound_empty.enter _
  have free : Small.guardedNode.guards.holds = [] := rfl
  obtain ⟨moment, passes⟩ := Small.passes_creating
  have balanced := (run_balanced Small.engine_built 9 Small.creating sound free).1 _ moment passes
  refine ⟨⟨Small.engine_built, sound, free⟩, moment, passes, ?_, ?_, ?_⟩
  · rw [(balanced _).counted]
    decide +kernel
  · rw [(balanced _).shared]
    exact ⟨.dependency .add (Small.object "n"), by decide +kernel, rfl⟩
  · rw [(balanced _).exclusive]
    exact ⟨⟨"disk", "create", Small.object "a"⟩, by decide +kernel⟩

end Provision
