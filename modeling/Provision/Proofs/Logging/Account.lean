import Mathlib.Data.List.Forall2
import Provision.Proofs.Logging.Lines
import Provision.Proofs.Run.Trail
import Provision.Resource

/-! # What a history tells of the dispatches in it

Dispatches are nested, so those that are under way at a moment are just the spans that are open then. What
is told last in a dispatch shows what came of it: a delete that is refused is told to be, and so is the
removal of a record.
-/

namespace Provision

open Logging

/-- The frames that a history has begun and not ended, innermost first. -/
def openFrames : List Mark → List Frame
  | [] => []
  | .began frame :: past => frame :: openFrames past
  | .ended _ :: past => (openFrames past).tail
  | _ :: past => openFrames past

/-- Whether what is done next is done by a dispatch itself, and not by a handler or a scope. -/
def inDispatch (past : List Mark) : Bool :=
  match openFrames past with
  | .dispatch .. :: _ => true
  | _ => false

/-- The record of an object that was removed, and everything that was done before. -/
structure Removal where
  key : ObjectKey
  past : List Mark

/-- The records that were removed by dispatches and not by handlers, in order. -/
def removals : List Mark → List Removal
  | [] => []
  | .stored (.remove key) false :: past =>
    if inDispatch past && (storeAfter past).hasRecord key then removals past ++ [⟨key, past⟩] else removals past
  | _ :: past => removals past

/-- A dispatch that was made, with everything that had been done when it began and when it ended. -/
structure Dispatched where
  span : Span
  result : Except (Halt EngineError) Response
  before : List Mark
  after : List Mark

/-- Whether a run ended because an object is in use. -/
def Halt.isRefusal : Halt EngineError → Bool
  | .error (.objectInUse _) => true
  | _ => false

/-- Whether something was refused because an object is in use. -/
def isRefusal {α : Type} : Except (Halt EngineError) α → Bool
  | .ok _ => false
  | .error halt => halt.isRefusal

namespace Dispatched

/-- Whether a dispatch has begun and not ended when just this has been done. -/
def isUnderWay (past : List Mark) (dispatched : Dispatched) : Bool :=
  dispatched.before.length < past.length && past.length < dispatched.after.length

/-- What was done before a dispatch ended tells that it began. -/
def HasBegun (dispatched : Dispatched) : Prop :=
  ∃ mode, .began (.dispatch dispatched.span mode) :: dispatched.before <:+ dispatched.after

/-- One dispatch ends before another one begins, or within it. -/
def Precedes (first second : Dispatched) : Prop :=
  first.after.length ≤ second.before.length ∨
    second.before.length < first.before.length ∧ first.after.length < second.after.length

end Dispatched

theorem Dispatched.HasBegun.before {dispatched : Dispatched} (begun : dispatched.HasBegun) :
    dispatched.before <:+ dispatched.after := by
  obtain ⟨mode, part⟩ := begun
  exact (List.suffix_cons _ _).trans part

/-- The spans of the dispatches under way, of dispatches listed in the order of their ends. -/
def spansAt (made : List Dispatched) (past : List Mark) : List Span :=
  (made.filter (Dispatched.isUnderWay past)).map Dispatched.span

/-- Nothing was done in between that the log has to account for. -/
structure Uneventful (past now : List Mark) : Prop where
  frames : openFrames now = openFrames past
  spans : openSpans now = openSpans past
  deleted : moments .objectDeleted now = moments .objectDeleted past
  refused : moments .deleteRefused now = moments .deleteRefused past
  removals : removals now = removals past

/-- An entry that tells of no frame, no refusal and no removal. -/
def Mark.Silent : Mark → Prop
  | .began _ | .ended _ => False
  | .stored call astray => astray = true ∨ ∀ key, call ≠ .remove key
  | .reported event => event ≠ .objectDeleted ∧ event ≠ .deleteRefused
  | .noted _ => True

/-- What a dispatch does last, and how it ends then. -/
inductive Closes (span : Span) (now : List Mark) : Except (Halt EngineError) Response → List Mark → Prop where
  /-- Nothing that the log has to account for. -/
  | other {result : Except (Halt EngineError) Response} (kept : isRefusal result = false) : Closes span now result []
  /-- A delete is refused. -/
  | refused (deleting : span.action = Resource.deleteAction) :
      Closes span now (.error (.error (.objectInUse span.object))) [.reported .deleteRefused]
  /-- The record of a deleted object is removed. -/
  | deleted {result : Except (Halt EngineError) Response} {told : List Mark} (kept : isRefusal result = false)
      (deleting : span.action = Resource.deleteAction) (present : (storeAfter now).hasRecord span.object = true)
      (silent : ∀ mark ∈ told, mark.Silent) :
      Closes span now result (.reported .objectDeleted :: (told ++ [.stored (.remove span.object) false]))

/-- What was done between two moments tells of just these dispatches, in the order of their ends. -/
inductive Tells : List Mark → List Mark → List Dispatched → Prop where
  | nil (past : List Mark) : Tells past past []
  | entry {mark : Mark} {past : List Mark} (uneventful : Uneventful past (mark :: past)) :
      Tells past (mark :: past) []
  | trans {past mid now : List Mark} {made later : List Dispatched} (first : Tells past mid made)
      (second : Tells mid now later) : Tells past now (made ++ later)
  | framed {frame : Frame} {past now : List Mark} {made : List Dispatched}
      (other : ∀ span mode, frame ≠ .dispatch span mode) (inside : Tells (.began frame :: past) now made) :
      Tells past (.ended frame :: now) made
  | dispatched {span : Span} {mode : LockMode} {past now marks : List Mark} {made : List Dispatched}
      {result : Except (Halt EngineError) Response}
      (inside : Tells (.began (.dispatch span mode) :: past) now made) (closes : Closes span now result marks) :
      Tells past (.ended (.dispatch span mode) :: (marks ++ now))
        (made ++ [⟨span, result, past, .ended (.dispatch span mode) :: (marks ++ now)⟩])

/-- What was done since a moment tells of these dispatches, which are made in another one that has just come to its
    end. -/
def Finishes (span : Span) (past : List Mark) (made : List Dispatched) (result : Except (Halt EngineError) Response)
    (last : List Mark) : Prop :=
  ∃ now marks, Tells past now made ∧ Closes span now result marks ∧ last = marks ++ now

/-- A delete was refused, and at this moment that was told. -/
structure Rejects (moment : List Mark) (dispatched : Dispatched) : Prop where
  deleting : dispatched.span.action = Resource.deleteAction
  result : dispatched.result = .error (.error (.objectInUse dispatched.span.object))
  spans : openSpans moment = dispatched.span :: openSpans dispatched.before
  after : ∃ mode, dispatched.after = .ended (.dispatch dispatched.span mode) :: .reported .deleteRefused :: moment

/-- The record of an object was removed in the dispatch of its delete, and at this moment that was told. -/
structure Deletes (moment : List Mark) (removal : Removal) : Prop where
  inside : ∃ span outer, openSpans removal.past = span :: outer ∧ span.action = Resource.deleteAction ∧
    span.object = removal.key
  spans : openSpans moment = openSpans removal.past
  after : ∃ told : List Mark, moment = told ++ .stored (.remove removal.key) false :: removal.past ∧
    ∀ mark ∈ told, mark.Silent

section Marks

variable {mark : Mark} {marks past part now : List Mark} {event : Event} {frame : Frame}

theorem moments_append_reported : moments event (.reported event :: past) = moments event past ++ [past] := by
  simp [moments, reports, List.filter_append]

theorem moments_of_unreported (other : mark ≠ .reported event) :
    moments event (mark :: past) = moments event past := by
  cases mark with
  | reported told =>
      have differs : told ≠ event := fun same => other (congrArg Mark.reported same)
      simp [moments, reports, List.filter_append, differs]
  | began | ended | stored | noted => rfl

theorem openFrames_unframed (unframed : mark.Unframed) : openFrames (mark :: past) = openFrames past := by
  cases mark with
  | began | ended => exact unframed.elim
  | stored | reported | noted => rfl

theorem openSpans_unframed (unframed : mark.Unframed) : openSpans (mark :: past) = openSpans past := by
  cases mark with
  | began | ended => exact unframed.elim
  | stored | reported | noted => rfl

theorem openSpans_other (other : ∀ span mode, frame ≠ .dispatch span mode) :
    openSpans (.began frame :: past) = openSpans past ∧ openSpans (.ended frame :: past) = openSpans past := by
  cases frame with
  | dispatch span mode => exact absurd rfl (other span mode)
  | handler | dependency | scope => exact ⟨rfl, rfl⟩

theorem Mark.Silent.unframed (silent : mark.Silent) : mark.Unframed := by
  cases mark with
  | began | ended => exact silent.elim
  | stored | reported | noted => trivial

theorem Uneventful.refl (past : List Mark) : Uneventful past past := ⟨rfl, rfl, rfl, rfl, rfl⟩

theorem Uneventful.trans {mid : List Mark} (first : Uneventful past mid) (second : Uneventful mid now) :
    Uneventful past now where
  frames := second.frames.trans first.frames
  spans := second.spans.trans first.spans
  deleted := second.deleted.trans first.deleted
  refused := second.refused.trans first.refused
  removals := second.removals.trans first.removals

theorem Mark.Silent.uneventful (silent : mark.Silent) (past : List Mark) : Uneventful past (mark :: past) where
  frames := openFrames_unframed silent.unframed
  spans := openSpans_unframed silent.unframed
  deleted := moments_of_unreported fun same => by
    subst same
    exact silent.1 rfl
  refused := moments_of_unreported fun same => by
    subst same
    exact silent.2 rfl
  removals := by
    cases mark with
    | stored call astray =>
        cases astray with
        | true => cases call <;> rfl
        | false =>
            cases call with
            | remove key => exact absurd rfl (silent.resolve_left Bool.false_ne_true key)
            | get | has | write | link | unlink | release | masters => rfl
    | began | ended => exact silent.elim
    | reported | noted => rfl

/-- A record that a handler or a scope removes is not removed by a dispatch, and one that is not there is not
    removed at all. -/
theorem uneventful_stored {call : StoreCall} {astray : Bool}
    (kept : inDispatch past = false ∨ ∀ key, call = .remove key → (storeAfter past).hasRecord key = false) :
    Uneventful past (.stored call astray :: past) where
  frames := rfl
  spans := rfl
  deleted := rfl
  refused := rfl
  removals := by
    cases astray with
    | true => cases call <;> rfl
    | false =>
        cases call with
        | remove key =>
            rcases kept with outside | absent
            · simp [removals, outside]
            · simp [removals, absent key rfl]
        | get | has | write | link | unlink | release | masters => rfl

theorem uneventful_of_silent (silent : ∀ mark ∈ marks, mark.Silent) (past : List Mark) :
    Uneventful past (marks ++ past) := by
  induction marks with
  | nil => exact .refl past
  | cons mark marks ih =>
      obtain ⟨first, others⟩ := List.forall_mem_cons.mp silent
      exact (ih others).trans (first.uneventful _)

theorem openSpans_of_unframed (unframed : ∀ mark ∈ marks, mark.Unframed) :
    openSpans (marks ++ past) = openSpans past ∧ openFrames (marks ++ past) = openFrames past := by
  induction marks with
  | nil => exact ⟨rfl, rfl⟩
  | cons mark marks ih =>
      obtain ⟨first, others⟩ := List.forall_mem_cons.mp unframed
      obtain ⟨spans, frames⟩ := ih others
      exact ⟨(openSpans_unframed first).trans spans, (openFrames_unframed first).trans frames⟩

end Marks

section Suffixes

variable {α : Type} {entry : α} {past part now : List α}

theorem eq_of_suffix (before : part <:+ past) (after : past <:+ part) : part = past :=
  before.eq_of_length_le after.length_le

theorem eq_or_suffix_cons (after : past <:+ part) (before : part <:+ now) (inside : entry :: past <:+ now) :
    part = past ∨ entry :: past <:+ part := by
  rcases List.suffix_or_suffix_of_suffix before inside with early | late
  · rcases List.suffix_cons_iff.mp early with rfl | early
    · exact .inr (List.suffix_refl _)
    · exact .inl (eq_of_suffix early after)
  · exact .inr late

end Suffixes

namespace Closes

variable {span : Span} {now marks : List Mark} {result : Except (Halt EngineError) Response}

theorem unframed (closes : Closes span now result marks) : ∀ mark ∈ marks, mark.Unframed := by
  cases closes with
  | other => nofun
  | refused => simp [Mark.Unframed]
  | deleted _ _ _ silent =>
      intro mark member
      simp only [List.mem_cons, List.mem_append, List.not_mem_nil, or_false] at member
      rcases member with rfl | told | rfl
      · trivial
      · exact (silent mark told).unframed
      · trivial

/-- Just the end of a refused dispatch tells of a refusal. -/
theorem told_refused (closes : Closes span now result marks) {before : List Mark} (mode : LockMode)
    (inside : openSpans now = span :: openSpans before) : ∃ told,
    moments .deleteRefused (marks ++ now) = moments .deleteRefused now ++ told ∧
      List.Forall₂ Rejects told
        ([⟨span, result, before, .ended (.dispatch span mode) :: (marks ++ now)⟩].filter fun dispatched =>
          isRefusal dispatched.result) := by
  cases closes with
  | other kept => exact ⟨[], (List.append_nil _).symm, by simp [kept]⟩
  | refused deleting =>
      exact ⟨[now], moments_append_reported, .cons ⟨deleting, rfl, inside, mode, rfl⟩ .nil⟩
  | @deleted _ told kept _ _ silent =>
      have quiet := uneventful_of_silent silent (.stored (.remove span.object) false :: now)
      have other : Mark.reported .objectDeleted ≠ .reported .deleteRefused := nofun
      refine ⟨[], ?_, by simp [kept]⟩
      rw [List.append_nil, List.cons_append, List.append_assoc, moments_of_unreported other]
      exact quiet.refused

/-- Just the removal of a record is told to be one. -/
theorem told_deleted (closes : Closes span now result marks) {before : List Mark} (acts : inDispatch now = true)
    (inside : openSpans now = span :: openSpans before) : ∃ told gone,
    moments .objectDeleted (marks ++ now) = moments .objectDeleted now ++ told ∧
      removals (marks ++ now) = removals now ++ gone ∧ List.Forall₂ Deletes told gone := by
  cases closes with
  | other => exact ⟨[], [], (List.append_nil _).symm, (List.append_nil _).symm, .nil⟩
  | refused =>
      have other : Mark.reported .deleteRefused ≠ .reported .objectDeleted := nofun
      exact ⟨[], [], (moments_of_unreported other).trans (List.append_nil _).symm, (List.append_nil _).symm, .nil⟩
  | @deleted _ told kept deleting present silent =>
      have quiet := uneventful_of_silent silent (.stored (.remove span.object) false :: now)
      have gone : removals (.stored (.remove span.object) false :: now) =
          removals now ++ [⟨span.object, now⟩] := by simp [removals, acts, present]
      rw [List.cons_append, List.append_assoc]
      refine ⟨[told ++ .stored (.remove span.object) false :: now], [⟨span.object, now⟩], ?_, ?_, .cons ?_ .nil⟩
      · exact moments_append_reported.trans (congrArg (· ++ _) quiet.deleted)
      · exact quiet.removals.trans gone
      · exact ⟨⟨span, _, inside, deleting, rfl⟩, quiet.spans, told, rfl, silent⟩

end Closes

theorem spansAt_append (made later : List Dispatched) (past : List Mark) :
    spansAt (made ++ later) past = spansAt made past ++ spansAt later past := by
  rw [spansAt, List.filter_append, List.map_append]
  rfl

section Single

variable {dispatched : Dispatched} {past : List Mark}

theorem spansAt_begins (early : past.length ≤ dispatched.before.length) : spansAt [dispatched] past = [] := by
  simp [spansAt, Dispatched.isUnderWay, Nat.not_lt.mpr early]

theorem spansAt_ended (late : dispatched.after.length ≤ past.length) : spansAt [dispatched] past = [] := by
  simp [spansAt, Dispatched.isUnderWay, late]

theorem spansAt_underWay (begun : dispatched.before.length < past.length)
    (going : past.length < dispatched.after.length) : spansAt [dispatched] past = [dispatched.span] := by
  simp [spansAt, Dispatched.isUnderWay, begun, going]

end Single

theorem tells_of_silent {marks : List Mark} (silent : ∀ mark ∈ marks, mark.Silent) (past : List Mark) :
    Tells past (marks ++ past) [] := by
  induction marks with
  | nil => exact .nil past
  | cons mark marks ih =>
      obtain ⟨first, others⟩ := List.forall_mem_cons.mp silent
      exact (ih others).trans (.entry (first.uneventful _))

namespace Tells

variable {past mid now part : List Mark} {made later : List Dispatched} {dispatched : Dispatched}

theorem suffix (tells : Tells past now made) : past <:+ now := by
  induction tells with
  | nil past => exact List.suffix_refl past
  | entry => exact List.suffix_cons _ _
  | trans _ _ ih ih' => exact ih.trans ih'
  | framed _ _ ih => exact (List.suffix_cons _ _).trans (ih.trans (List.suffix_cons _ _))
  | dispatched _ _ ih =>
      have inner := (List.suffix_cons _ _).trans ih
      exact inner.trans ((List.suffix_append _ _).trans (List.suffix_cons _ _))

/-- Between two moments dispatches begin and end. -/
theorem bounds (tells : Tells past now made) : ∀ dispatched ∈ made,
    past <:+ dispatched.before ∧ dispatched.HasBegun ∧ dispatched.after <:+ now := by
  induction tells with
  | nil | entry => nofun
  | trans first second ih ih' =>
      intro dispatched member
      rcases List.mem_append.mp member with early | late
      · obtain ⟨before, begun, after⟩ := ih dispatched early
        exact ⟨before, begun, after.trans second.suffix⟩
      · obtain ⟨before, begun, after⟩ := ih' dispatched late
        exact ⟨first.suffix.trans before, begun, after⟩
  | framed _ _ ih =>
      intro dispatched member
      obtain ⟨before, begun, after⟩ := ih dispatched member
      exact ⟨(List.suffix_cons _ _).trans before, begun, after.trans (List.suffix_cons _ _)⟩
  | @dispatched span mode past now marks made result inside closes ih =>
      have onward : now <:+ .ended (.dispatch span mode) :: (marks ++ now) :=
        (List.suffix_append _ _).trans (List.suffix_cons _ _)
      intro dispatched member
      rcases List.mem_append.mp member with inner | self
      · obtain ⟨before, begun, after⟩ := ih dispatched inner
        exact ⟨(List.suffix_cons _ _).trans before, begun, after.trans onward⟩
      · rw [List.mem_singleton.mp self]
        exact ⟨List.suffix_refl _, ⟨mode, inside.suffix.trans onward⟩, List.suffix_refl _⟩

/-- What was open is open again. -/
theorem open_eq (tells : Tells past now made) :
    openFrames now = openFrames past ∧ openSpans now = openSpans past := by
  induction tells with
  | nil => exact ⟨rfl, rfl⟩
  | entry uneventful => exact ⟨uneventful.frames, uneventful.spans⟩
  | trans _ _ ih ih' => exact ⟨ih'.1.trans ih.1, ih'.2.trans ih.2⟩
  | framed other _ ih =>
      obtain ⟨frames, spans⟩ := ih
      refine ⟨congrArg List.tail frames, ?_⟩
      rw [(openSpans_other other).2, spans, (openSpans_other other).1]
  | dispatched inside closes ih =>
      obtain ⟨spans, frames⟩ := openSpans_of_unframed closes.unframed
      exact ⟨congrArg List.tail (frames.trans ih.1), congrArg List.tail (spans.trans ih.2)⟩

/-- No dispatch leaves a span open. -/
theorem closed (tells : Tells past now made) :
    ∀ dispatched ∈ made, openSpans dispatched.after = openSpans dispatched.before := by
  induction tells with
  | nil | entry => nofun
  | trans _ _ ih ih' =>
      intro dispatched member
      exact (List.mem_append.mp member).elim (ih dispatched) (ih' dispatched)
  | framed _ _ ih => exact ih
  | dispatched inside closes ih =>
      intro dispatched member
      rcases List.mem_append.mp member with inner | self
      · exact ih dispatched inner
      · rw [List.mem_singleton.mp self]
        exact (inside.dispatched closes).open_eq.2

theorem spansAt_first (tells : Tells past now made) (early : part.length ≤ past.length) : spansAt made part = [] := by
  rw [spansAt, List.map_eq_nil_iff, List.filter_eq_nil_iff]
  intro dispatched member under
  obtain ⟨before, -, -⟩ := tells.bounds dispatched member
  have longer := before.length_le
  simp only [Dispatched.isUnderWay, Bool.and_eq_true, decide_eq_true_eq] at under
  omega

theorem spansAt_last (tells : Tells past now made) (late : now.length ≤ part.length) : spansAt made part = [] := by
  rw [spansAt, List.map_eq_nil_iff, List.filter_eq_nil_iff]
  intro dispatched member under
  obtain ⟨-, -, after⟩ := tells.bounds dispatched member
  have shorter := after.length_le
  simp only [Dispatched.isUnderWay, Bool.and_eq_true, decide_eq_true_eq] at under
  omega

/-- The spans that are open at a moment are those of the dispatches under way. -/
theorem spans (tells : Tells past now made) (after : past <:+ part) (before : part <:+ now) :
    openSpans part = spansAt made part ++ openSpans past := by
  induction tells generalizing part with
  | nil past =>
      rw [eq_of_suffix before after]
      rfl
  | entry uneventful =>
      rcases List.suffix_cons_iff.mp before with rfl | early
      · exact uneventful.spans
      · rw [eq_of_suffix early after]
        rfl
  | trans first second ih ih' =>
      rw [spansAt_append]
      rcases List.suffix_or_suffix_of_suffix before second.suffix with early | late
      · rw [second.spansAt_first early.length_le, List.append_nil]
        exact ih after early
      · rw [first.spansAt_last late.length_le, List.nil_append, ← first.open_eq.2]
        exact ih' late before
  | framed other inside ih =>
      rcases List.suffix_cons_iff.mp before with rfl | before
      · rw [inside.spansAt_last (Nat.le_succ _), List.nil_append]
        exact (inside.framed other).open_eq.2
      · rcases eq_or_suffix_cons after before inside.suffix with rfl | within
        · rw [inside.spansAt_first (Nat.le_succ _), List.nil_append]
        · rw [ih within before, (openSpans_other other).1]
  | @dispatched span mode past now marks made result inside closes ih =>
      have longer := inside.suffix.length_le
      rw [List.length_cons] at longer
      rw [spansAt_append]
      rcases List.suffix_cons_iff.mp before with rfl | before
      · rw [inside.spansAt_last (by simp; omega), spansAt_ended (Nat.le_refl _)]
        exact (inside.dispatched closes).open_eq.2
      -- The dispatch itself is under way from its beginning on, be it inside or at what it does last.
      have going : past.length < part.length →
          spansAt [⟨span, result, past, .ended (.dispatch span mode) :: (marks ++ now)⟩] part = [span] :=
        fun begun => spansAt_underWay begun (Nat.lt_succ_of_le before.length_le)
      rcases suffix_append_iff.mp before with early | ⟨rest, rfl, late⟩
      · rcases eq_or_suffix_cons after early inside.suffix with rfl | within
        · rw [inside.spansAt_first (Nat.le_succ _), spansAt_begins (Nat.le_refl _)]
          rfl
        · rw [ih within early, going within.length_le, List.append_assoc]
          rfl
      · have unframed := fun mark member => closes.unframed mark (late.subset member)
        rw [(openSpans_of_unframed unframed).1, inside.open_eq.2, inside.spansAt_last (by simp),
          going (by simp; omega)]
        rfl

/-- Dispatches are listed in the order of their ends, and nested. -/
theorem pairwise (tells : Tells past now made) : made.Pairwise Dispatched.Precedes := by
  induction tells with
  | nil | entry => exact .nil
  | trans first second ih ih' =>
      refine List.pairwise_append.mpr ⟨ih, ih', fun early member late member' => .inl ?_⟩
      obtain ⟨-, -, after⟩ := first.bounds early member
      obtain ⟨before, -, -⟩ := second.bounds late member'
      exact after.length_le.trans before.length_le
  | framed _ _ ih => exact ih
  | dispatched inside closes ih =>
      refine List.pairwise_append.mpr ⟨ih, List.pairwise_singleton _ _, fun inner member outer member' => .inr ?_⟩
      obtain ⟨before, -, after⟩ := inside.bounds inner member
      have longer := before.length_le
      have shorter := after.length_le
      rw [List.mem_singleton.mp member']
      simp only [List.length_cons, List.length_append] at longer ⊢
      omega

/-- The refusals that are told are those of the dispatches that were refused, in the same order. -/
theorem told_refused (tells : Tells past now made) : ∃ told,
    moments .deleteRefused now = moments .deleteRefused past ++ told ∧
      List.Forall₂ Rejects told (made.filter fun dispatched => isRefusal dispatched.result) := by
  induction tells with
  | nil past => exact ⟨[], (List.append_nil _).symm, .nil⟩
  | entry uneventful => exact ⟨[], by rw [uneventful.refused, List.append_nil], .nil⟩
  | trans _ _ ih ih' =>
      obtain ⟨told, same, pairs⟩ := ih
      obtain ⟨told', same', pairs'⟩ := ih'
      refine ⟨told ++ told', by rw [same', same, List.append_assoc], ?_⟩
      rw [List.filter_append]
      exact List.rel_append pairs pairs'
  | framed _ _ ih => exact ih
  | @dispatched span mode past now marks made result inside closes ih =>
      obtain ⟨told, same, pairs⟩ := ih
      obtain ⟨last, ends, pair⟩ := closes.told_refused mode inside.open_eq.2
      refine ⟨told ++ last, ?_, ?_⟩
      · rw [← List.append_assoc]
        exact ends.trans (congrArg (· ++ last) same)
      · rw [List.filter_append]
        exact List.rel_append pairs pair

/-- The deletions that are told are the removals of records by dispatches, in the same order. -/
theorem told_deleted (tells : Tells past now made) : ∃ told gone,
    moments .objectDeleted now = moments .objectDeleted past ++ told ∧ removals now = removals past ++ gone ∧
      List.Forall₂ Deletes told gone := by
  induction tells with
  | nil past => exact ⟨[], [], (List.append_nil _).symm, (List.append_nil _).symm, .nil⟩
  | entry uneventful =>
      exact ⟨[], [], by rw [uneventful.deleted, List.append_nil], by rw [uneventful.removals, List.append_nil], .nil⟩
  | trans _ _ ih ih' =>
      obtain ⟨told, gone, same, left, pairs⟩ := ih
      obtain ⟨told', gone', same', left', pairs'⟩ := ih'
      refine ⟨told ++ told', gone ++ gone', ?_, ?_, List.rel_append pairs pairs'⟩
      · rw [same', same, List.append_assoc]
      · rw [left', left, List.append_assoc]
  | framed _ _ ih => exact ih
  | @dispatched span mode past now marks made result inside closes ih =>
      obtain ⟨told, gone, same, left, pairs⟩ := ih
      have acts : inDispatch now = true := by simp [inDispatch, inside.open_eq.1, openFrames]
      obtain ⟨last, lost, ends, ends', pair⟩ := closes.told_deleted acts inside.open_eq.2
      refine ⟨told ++ last, gone ++ lost, ?_, ?_, List.rel_append pairs pair⟩
      · rw [← List.append_assoc]
        exact ends.trans (congrArg (· ++ last) same)
      · rw [← List.append_assoc]
        exact ends'.trans (congrArg (· ++ lost) left)

end Tells

end Provision
