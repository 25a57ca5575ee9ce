import Std.Data.String.ToNat
import Provision.Proofs.Guard.Waiting

/-! # Objects that wait for each other

An object is guarded under the text of its key, in which a slash stands after the tenant and after the
space. A space or a name may have slashes of its own, so two objects of a tenant may have the same text.
The locks of such objects are one lock: an operation on the one waits for an operation on the other. No
other objects have anything to do with each other.
-/

namespace Provision

open Run Node

/-- Two texts with a slash between them are read off again, but for which slash it is. -/
theorem append_slash_eq_iff {a b c d : String} : a ++ "/" ++ b = c ++ "/" ++ d ↔ a = c ∧ b = d ∨
    ∃ middle, c = a ++ "/" ++ middle ∧ b = middle ++ "/" ++ d ∨
      a = c ++ "/" ++ middle ∧ d = middle ++ "/" ++ b := by
  have slash : "/".toList = ['/'] := rfl
  constructor
  · intro same
    simp only [← String.toList_inj, String.toList_append, slash, List.append_assoc,
      List.singleton_append] at same
    rcases List.append_eq_append_iff.mp same with ⟨gap, long, rest⟩ | ⟨gap, long, rest⟩
    all_goals cases gap with
      | nil => simp_all [String.toList_inj]
      | cons first middle =>
          simp only [List.cons_append, List.cons.injEq] at rest
          obtain ⟨rfl, rest⟩ := rest
          refine .inr ⟨String.ofList middle, ?_⟩
          simp [← String.toList_inj, slash, long, rest]
  · rintro (⟨rfl, rfl⟩ | ⟨middle, ⟨rfl, rfl⟩ | ⟨rfl, rfl⟩⟩) <;> simp only [String.append_assoc]

namespace ObjectKey

variable {a b : ObjectKey}

/-- The space of one key goes on where that of the other ends, and takes in the start of its name. -/
def Overlaps (a b : ObjectKey) : Prop :=
  a.user = b.user ∧ ∃ middle,
    b.space = a.space ++ "/" ++ middle ∧ a.object = middle ++ "/" ++ b.object ∨
    a.space = b.space ++ "/" ++ middle ∧ b.object = middle ++ "/" ++ a.object

theorem slash_notMem_user (user : UInt32) : '/' ∉ (toString user.toNat).toList := by
  rw [Nat.toString_eq_ofList_toDigits, String.toList_ofList]
  intro member
  cases Nat.isDigit_of_mem_toDigits (by decide) (by decide) member

theorem text_eq (key : ObjectKey) : key.text =
    toString key.user.toNat ++ "/" ++ (key.space ++ "/" ++ key.object) := by
  simp only [text, String.append_assoc]

theorem text_eq_text_iff : a.text = b.text ↔ a = b ∨ a.Overlaps b := by
  have digits : ∀ (user user' : UInt32) (more : String),
      toString user.toNat ≠ toString user'.toNat ++ "/" ++ more := by
    intro user user' more same
    refine slash_notMem_user user ?_
    simp [same]
  have users : toString a.user.toNat = toString b.user.toNat ↔ a.user = b.user :=
    Nat.repr_inj.trans UInt32.toNat_inj
  have parts : a.text = b.text ↔
      a.user = b.user ∧ a.space ++ "/" ++ a.object = b.space ++ "/" ++ b.object := by
    rw [text_eq, text_eq, append_slash_eq_iff, users, or_iff_left]
    rintro ⟨middle, ⟨user, -⟩ | ⟨user, -⟩⟩
    · exact digits _ _ _ user
    · exact digits _ _ _ user
  rw [parts, append_slash_eq_iff, and_or_left, Overlaps]
  refine or_congr_left ?_
  obtain ⟨user, space, object⟩ := a
  obtain ⟨user', space', object'⟩ := b
  simp

/-- Objects of one space do not overlap. -/
theorem not_overlaps_sibling {name : String} : ¬a.Overlaps (a.sibling name) := by
  have longer : ∀ middle : String, a.space ≠ a.space ++ "/" ++ middle := by
    intro middle same
    have lengths := congrArg String.length same
    simp only [String.length_append] at lengths
    have slash : "/".length = 1 := rfl
    omega
  rintro ⟨-, middle, ⟨same, -⟩ | ⟨same, -⟩⟩
  · exact longer middle same
  · exact longer middle same

end ObjectKey

/-- The frame holds a lock that is the lock of an object, and not in a way that lets it be had in a mode. -/
def Frame.Blocks (frame : Frame) (key : ObjectKey) (mode : LockMode) : Prop :=
  (frame.object = key ∨ frame.object.Overlaps key) ∧ (frame.mode = .exclusive ∨ mode = .exclusive)

/-- A lock cannot be had just if one of the frames that are open blocks it. -/
theorem GuardTable.Carries.take?_eq_none_iff {before now : GuardTable} {frames : List Frame}
    (carries : before.Carries frames now) (free : before.holds = []) {key : ObjectKey}
    {mode : LockMode} : now.take? key.text mode = none ↔ ∃ frame ∈ frames, frame.Blocks key mode := by
  have holds : ∀ side, now.Holds key.text side ↔
      ∃ frame ∈ frames, (frame.object = key ∨ frame.object.Overlaps key) ∧ frame.mode = side := by
    intro side
    rw [← mem_holders_iff, carries.holders, holders_of_free free]
    simp [framesOn, ObjectKey.text_eq_text_iff, and_assoc]
  rw [← Option.not_isSome_iff_eq_none, take?_isSome_iff carries.sound]
  constructor
  · intro refused
    by_contra clear
    refine refused ⟨fun written => ?_, fun writes read => ?_⟩
    · obtain ⟨frame, member, shares, writer⟩ := (holds _).mp written
      exact clear ⟨frame, member, shares, .inl writer⟩
    · obtain ⟨frame, member, shares, -⟩ := (holds _).mp read
      exact clear ⟨frame, member, shares, .inr writes⟩
  · rintro ⟨frame, member, shares, conflict⟩ ⟨unwritten, unread⟩
    cases side : frame.mode with
    | exclusive => exact unwritten ((holds _).mpr ⟨frame, member, shares, side⟩)
    | shared =>
        obtain writer | writes := conflict
        · rw [side] at writer
          cases writer
        · exact unread writes ((holds _).mpr ⟨frame, member, shares, side⟩)

/-- Objects have the same text just if they are the same or overlap. While others have frames open, a run
    waits for the lock of an object just if it passes a point at which the next operation needs that lock,
    and a frame blocks it that is open there: one that the run is in, or one of the others, on that object
    or on one that overlaps with it. -/
theorem waits_iff_blocked {engine : Engine} (built : engine.Built) (depth : Nat) (program : Program)
    {node : Node} {before : GuardTable} {others : List Frame} (free : before.holds = [])
    (carries : before.Carries others node.guards) :
    (∀ a b : ObjectKey, a.text = b.text ↔ a = b ∨ a.Overlaps b) ∧
    ∀ key, (engine.run depth program).Waits node key ↔
      ∃ frames moment mode, Point.Passes engine ⟨depth, program, node⟩ frames moment ∧
        moment.Needs engine key mode ∧ ∃ frame ∈ frames ++ others, frame.Blocks key mode := by
  refine ⟨fun a b => ObjectKey.text_eq_text_iff, fun key => ?_⟩
  rw [Point.waits_iff_getsStuck built carries.sound]
  refine exists_congr fun frames => exists_congr fun moment => ?_
  rw [Point.Stuck, ← exists_and_left]
  refine exists_congr fun mode => and_congr_right fun passes => and_congr_right fun _ => ?_
  have now := carries.trans (passes.carries built carries.sound carries.exclusion)
  exact now.take?_eq_none_iff free

namespace Small

def nested : ObjectKey := ⟨1, "a", "b/c"⟩

def spaced : ObjectKey := ⟨1, "a/b", "c"⟩

/-- A dispatch on the one object is open, and has its lock for itself. -/
def writing : Frame := .dispatch ⟨"disk", "create", nested⟩ .exclusive

/-- What others hold then. -/
def writtenTo : Node where
  guards := (GuardTable.empty.take? writing.object.text writing.mode).elim .empty Prod.snd

def elsewhere : Program := .call ⟨1, "a/b", "disk", { action := "create", object := "c" }⟩ fun _ =>
  .done (.ok .null)

theorem writtenTo_carries : GuardTable.empty.Carries [writing] writtenTo.guards := by
  have taken : (GuardTable.empty.take? writing.object.text writing.mode).isSome :=
    GuardTable.take?_isSome_of_free GuardTable.sound_empty rfl
  obtain ⟨⟨hold, held⟩, taken⟩ := Option.isSome_iff_exists.mp taken
  have same : writtenTo.guards = held := by rw [writtenTo, taken, Option.elim_some]
  rw [same]
  exact .of_take? taken GuardTable.sound_empty (GuardTable.exclusion_of_free rfl)

theorem elsewhere_needs : Point.Needs engine ⟨9, elsewhere, writtenTo⟩ spaced .exclusive :=
  @Point.Needs.call engine 8 _ _ _ { resource "disk" .exclusive with guards := .shared }
    ⟨create "disk", .create⟩ rfl rfl

end Small

/-- Just the lock of another object is held, and still the creation waits that does not wait where no lock
    is held. -/
theorem different_objects_wait :
    Small.nested ≠ Small.spaced ∧ Small.nested.text = Small.spaced.text ∧
    GuardTable.empty.Carries [Small.writing] Small.writtenTo.guards ∧
    Small.writing.object = Small.nested ∧
    (Small.engine.run 9 Small.elsewhere).Waits Small.writtenTo Small.spaced ∧
    (Small.engine.run 9 Small.elsewhere .empty).1 = .ok .null ∧
    (Small.engine.run 9 Small.elsewhere .empty).2.store.hasRecord Small.spaced = true :=
  ⟨by decide, by decide +kernel, Small.writtenTo_carries, rfl, by unfold Waits; decide +kernel,
    by decide +kernel, by decide +kernel⟩

/-- The general statement for this creation: it needs the lock for itself, and the frame on the other
    object blocks it. -/
theorem waits_iff_blocked_creation :
    (Small.engine.Built ∧ GuardTable.empty.holds = [] ∧
      GuardTable.empty.Carries [Small.writing] Small.writtenTo.guards) ∧
    Small.nested.Overlaps Small.spaced ∧
    (Small.engine.run 9 Small.elsewhere).Waits Small.writtenTo Small.spaced := by
  have general := waits_iff_blocked Small.engine_built 9 Small.elsewhere rfl Small.writtenTo_carries
  have overlaps : Small.nested.Overlaps Small.spaced :=
    ((general.1 _ _).mp (by decide +kernel)).resolve_left (by decide)
  refine ⟨⟨Small.engine_built, rfl, Small.writtenTo_carries⟩, overlaps, (general.2 _).mpr ?_⟩
  exact ⟨[], _, .exclusive, .here _, Small.elsewhere_needs, Small.writing, List.mem_singleton_self _,
    .inr overlaps, .inl rfl⟩

end Provision
