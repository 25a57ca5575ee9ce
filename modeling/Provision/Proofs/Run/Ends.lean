import Provision.Node
import Provision.Proofs.Guard.Lock

/-! # How runs end

A run always ends, with a result and a node. What is said about a run is a condition on both, and
such conditions follow the shape of the run: there is one rule for each way in which runs are put
together. A relation between nodes that each part of a run respects is respected by the run.
-/

namespace Provision

namespace Run

variable {ε ε' α β : Type} {node : Node}

/-- A run from a node ends with a result and a node that meet a condition. -/
def Ends (body : Run ε α) (node : Node) (post : Except (Halt ε) α → Node → Prop) : Prop :=
  post (body node).1 (body node).2

theorem Ends.imp {body : Run ε α} {post post' : Except (Halt ε) α → Node → Prop}
    (ends : body.Ends node post) (weaker : ∀ result after, post result after → post' result after) :
    body.Ends node post' := weaker _ _ ends

theorem Ends.of_eq {body : Run ε α} {post : Except (Halt ε) α → Node → Prop}
    {result : Except (Halt ε) α} {after : Node} (ends : body.Ends node post)
    (ran : body node = (result, after)) : post result after := by
  rw [Ends, ran] at ends
  exact ends

theorem Ends.of_true (body : Run ε α) (node : Node) : body.Ends node fun _ _ => True := trivial

/-- Whoever goes on with the value of a run goes on after it; anything else ends both. -/
theorem Ends.bind {body : Run ε α} {next : α → Run ε β} {post : Except (Halt ε) α → Node → Prop}
    {post' : Except (Halt ε) β → Node → Prop} (ends : body.Ends node post)
    (value : ∀ a after, post (.ok a) after → (next a).Ends after post')
    (halts : ∀ halt after, post (.error halt) after → post' (.error halt) after) :
    (body >>= next).Ends node post' := by
  simp only [Ends] at ends value ⊢
  simp only [Bind.bind, ExceptT.bind, ExceptT.mk, StateT.bind, ExceptT.bindCont]
  cases found : body node with
  | mk result after =>
      rw [found] at ends
      cases result with
      | ok a => exact value a after ends
      | error halt => exact halts halt after ends

/-- What is said about values only is for the last part of a run to meet. -/
theorem Ends.bind_value {body : Run ε α} {next : α → Run ε β} {good : β → Node → Prop}
    (goes : ∀ a after, (next a).Ends after fun result last => ∀ b, result = .ok b → good b last) :
    (body >>= next).Ends node fun result last => ∀ b, result = .ok b → good b last := by
  apply (Ends.of_true body node).bind
  · intro a after _
    exact goes a after
  · intro halt after _ b same
    cases same

/-- A run whose first part ends with a value is the rest from there. -/
theorem bind_of_ok {body : Run ε α} {next : α → Run ε β} {a : α} {mid : Node}
    (first : body node = (.ok a, mid)) : (body >>= next) node = next a mid := by
  simp only [Bind.bind, ExceptT.bind, ExceptT.mk, StateT.bind, ExceptT.bindCont, first]

theorem bind_of_error {body : Run ε α} {next : α → Run ε β} {halt : Halt ε} {mid : Node}
    (first : body node = (.error halt, mid)) : (body >>= next) node = (.error halt, mid) := by
  simp only [Bind.bind, ExceptT.bind, ExceptT.mk, StateT.bind, ExceptT.bindCont, first]
  rfl

theorem bind_eq_ok {body : Run ε α} {next : α → Run ε β} {value : β} {after : Node}
    (ran : (body >>= next) node = (.ok value, after)) :
    ∃ a mid, body node = (.ok a, mid) ∧ next a mid = (.ok value, after) := by
  simp only [Bind.bind, ExceptT.bind, ExceptT.mk, StateT.bind, ExceptT.bindCont] at ran
  cases first : body node with
  | mk result mid =>
      rw [first] at ran
      cases result with
      | ok a => exact ⟨a, mid, rfl, ran⟩
      | error halt => cases ran

section Rules

variable {post : Except (Halt ε) α → Node → Prop}

theorem ends_report_bind {event : Event} {next : Unit → Run ε α} :
    (report event >>= next).Ends node post ↔
      (next ()).Ends (node.marked (.reported event)) post := Iff.rfl

theorem ends_get_bind {next : Node → Run ε α} :
    (get >>= next).Ends node post ↔ (next node).Ends node post := Iff.rfl

theorem ends_within {frame : Frame} {body : Run ε α} :
    (within frame body).Ends node post ↔
      body.Ends (node.marked (.began frame)) fun result after =>
        post result (after.marked (.ended frame)) := Iff.rfl

theorem ends_mapError {f : ε' → ε} {body : Run ε' α} :
    (mapError f body).Ends node post ↔
      body.Ends node fun result after => post (result.mapError (Halt.map f)) after := by
  simp only [Ends, mapError]
  cases body node with
  | mk result after => cases result <;> exact Iff.rfl

/-- The end of a run whose error is made a value. -/
def caught : Except (Halt ε') α → Except (Halt ε) (Except ε' α)
  | .ok value => .ok (.ok value)
  | .error (.error error) => .ok (.error error)
  | .error (.panic message) => .error (.panic message)
  | .error (.waits key) => .error (.waits key)
  | .error .tooDeep => .error .tooDeep

theorem caught_eq_ok {outcome : Except (Halt ε') α} {value : Except ε' α}
    (same : caught outcome = (.ok value : Except (Halt ε) _)) :
    outcome = value.mapError Halt.error := by
  cases outcome with
  | ok => cases same; rfl
  | error halt => cases halt <;> cases same; rfl

theorem ends_attempt {body : Run ε' α} {post : Except (Halt ε) (Except ε' α) → Node → Prop} :
    (attempt body).Ends node post ↔ body.Ends node fun result after => post (caught result) after := by
  simp only [Ends, attempt]
  cases body node with
  | mk result after =>
      cases result with
      | ok => exact Iff.rfl
      | error halt => cases halt <;> exact Iff.rfl

/-- A run in a frame whose error is made a value ends as the run does by itself. -/
theorem ends_attempt_within {frame : Frame} {body : Run ε' α} :
    (attempt (within frame body) : Run ε (Except ε' α)).Ends node fun result after =>
      ∃ outcome done, body (node.marked (.began frame)) = (outcome, done) ∧
        result = caught outcome ∧ after = done.marked (.ended frame) :=
  ends_attempt.mpr (ends_within.mpr ⟨_, _, rfl, rfl, rfl⟩)

end Rules

/-- A property of runs that the ways in which runs are put together respect. Of all the ends without a
    value, only errors have it as a matter of course. -/
structure Composed (K : ∀ {ε α : Type}, Run ε α → Prop) : Prop where
  pure : ∀ {ε α : Type} (value : α), K (pure value : Run ε α)
  fail : ∀ {ε α : Type} (error : ε), K (fail error : Run ε α)
  bind : ∀ {ε α β : Type} {body : Run ε α} {next : α → Run ε β}, K body →
    (∀ value, K (next value)) → K (body >>= next)
  attempt : ∀ {ε ε' α : Type} {body : Run ε' α}, K body → K (attempt body : Run ε (Except ε' α))

theorem Composed.ofExcept {K : ∀ {ε α : Type}, Run ε α → Prop} (composed : Composed K)
    (outcome : Except ε α) : K (ofExcept outcome) := by
  cases outcome with
  | ok value => exact composed.pure value
  | error error => exact composed.fail error

/-- The same of runs with errors of one type, where nothing is known but of values and of going on with them. -/
structure Chained (K : ∀ {α : Type}, Run ε α → Prop) : Prop where
  pure : ∀ {α : Type} (value : α), K (Pure.pure value)
  bind : ∀ {α β : Type} {body : Run ε α} {next : α → Run ε β}, K body → (∀ value, K (next value)) →
    K (body >>= next)

theorem Composed.chained {K : ∀ {ε α : Type}, Run ε α → Prop} (composed : Composed K) :
    Chained fun {α} (body : Run ε α) => K body :=
  ⟨composed.pure, composed.bind⟩

/-! ## Relations that runs respect -/

/-- Every end of a run is related to its start. -/
def Keeps (R : Node → Node → Prop) (body : Run ε α) : Prop :=
  ∀ node, body.Ends node fun _ after => R node after

theorem Keeps.of_eq {R : Node → Node → Prop} {body : Run ε α} (keeps : Keeps R body)
    {result : Except (Halt ε) α} {after : Node} (ran : body node = (result, after)) :
    R node after := (keeps node).of_eq ran

section Keeps

variable {R : Node → Node → Prop} (refl : ∀ node, R node node)
  (trans : ∀ ⦃a b c⦄, R a b → R b c → R a c)

include trans in
theorem Keeps.bind {body : Run ε α} {next : α → Run ε β} (first : Keeps R body)
    (second : ∀ value, Keeps R (next value)) : Keeps R (body >>= next) := by
  intro node
  refine (first node).bind ?_ (fun _ _ related => related)
  intro value after related
  exact (second value after).imp fun _ _ further => trans related further

theorem Keeps.attempt {body : Run ε' α} (keeps : Keeps R body) :
    Keeps R (attempt body : Run ε (Except ε' α)) := by
  intro node
  rw [ends_attempt]
  exact keeps node

theorem Keeps.mapError {body : Run ε' α} (keeps : Keeps R body) (f : ε' → ε) :
    Keeps R (body.mapError f) := by
  intro node
  rw [ends_mapError]
  exact keeps node

include refl in
theorem Keeps.pure (value : α) : Keeps R (pure value : Run ε α) := fun node => refl node

include refl in
theorem Keeps.throw (halt : Halt ε) : Keeps R (throw halt : Run ε α) := fun node => refl node

include refl trans in
theorem Keeps.composed : Composed fun body => Keeps R body where
  pure := Keeps.pure refl
  fail _ := Keeps.throw refl _
  bind := Keeps.bind trans
  attempt := Keeps.attempt

end Keeps

/-! ## Runs that hold a lock -/

section Guarded

variable {scope : GuardScope} {key : ObjectKey} {mode : LockMode} {body : Run ε α}
  {post : Except (Halt ε) α → Node → Prop}

theorem ends_guarded :
    (guarded scope key mode body).Ends node post ↔
      match (node.table scope).take? key.text mode with
      | none => post (.error (.waits key)) node
      | some (hold, held) =>
        body.Ends (node.withTable scope held) fun result after =>
          match (after.table scope).leave? key.text hold with
          | some left => post result (after.withTable scope left)
          | none => post (.error (.panic (GuardTable.invalidExit key.text))) after := by
  have id : ((node.table scope).enter key.text).1.id = key.text := by
    rw [GuardTable.enter_fst]
  simp only [Ends, guarded, GuardTable.take?, GuardTable.leave?, id]
  cases ((node.table scope).enter key.text).2.acquire?
      ((node.table scope).enter key.text).1 mode with
  | none => exact Iff.rfl
  | some taken =>
      obtain ⟨hold, held⟩ := taken
      dsimp only
      cases body (node.withTable scope held) with
      | mk result after =>
          dsimp only
          cases ((after.table scope).release hold).exit? key.text <;> exact Iff.rfl

theorem guarded_of_refused (refused : (node.table scope).take? key.text mode = none) :
    guarded scope key mode body node = (.error (.waits key), node) := by
  have ends : (guarded scope key mode body).Ends node fun result after =>
      (result, after) = (.error (.waits key), node) := by
    rw [ends_guarded, refused]
  exact ends

theorem guarded_of_leaves {hold : Hold} {held left : GuardTable}
    (taken : (node.table scope).take? key.text mode = some (hold, held))
    (leaves : ((body (node.withTable scope held)).2.table scope).leave? key.text hold = some left) :
    guarded scope key mode body node =
      ((body (node.withTable scope held)).1, (body (node.withTable scope held)).2.withTable scope left) := by
  have ends : (guarded scope key mode body).Ends node fun result after => (result, after) =
      ((body (node.withTable scope held)).1, (body (node.withTable scope held)).2.withTable scope left) := by
    rw [ends_guarded, taken]
    simp only [Ends, leaves]
  exact ends

/-- A run that holds a lock: it waits, or it goes on with the lock held and gives it back. -/
theorem Ends.guarded (sound : (node.table scope).Sound)
    (waits : (node.table scope).take? key.text mode = none → post (.error (.waits key)) node)
    (runs : ∀ hold held, (node.table scope).take? key.text mode = some (hold, held) →
      body.Ends (node.withTable scope held) fun result after =>
        held.Agrees (after.table scope) ∧ (after.table scope).Sound ∧
          ∀ left, (node.table scope).Agrees left → left.Sound →
            post result (after.withTable scope left)) :
    (guarded scope key mode body).Ends node post := by
  rw [ends_guarded]
  split
  · next waiting => exact waits waiting
  · next hold held taken =>
      refine (runs hold held taken).imp ?_
      intro result after both
      obtain ⟨agrees, kept, back⟩ := both
      obtain ⟨left, leaves, same, known⟩ := GuardTable.leave?_take? taken sound agrees kept
      rw [leaves]
      exact back left same known

/-- A run with a value that held a lock took the lock first and gave a table back in the end. -/
theorem guarded_eq_ok {value : α} {after : Node}
    (ran : guarded scope key mode body node = (.ok value, after)) :
    ∃ hold held last left, (node.table scope).take? key.text mode = some (hold, held) ∧
      body (node.withTable scope held) = (.ok value, last) ∧ after = last.withTable scope left := by
  have ends : (guarded scope key mode body).Ends node fun result after => result = .ok value →
      ∃ hold held last left, (node.table scope).take? key.text mode = some (hold, held) ∧
        body (node.withTable scope held) = (.ok value, last) ∧ after = last.withTable scope left := by
    rw [ends_guarded]
    split
    next => exact fun waits => nomatch waits
    next hold held taken =>
      simp only [Ends]
      split
      next left leaves => exact fun same => ⟨hold, held, _, left, taken, Prod.ext same rfl, rfl⟩
      next => exact fun panics => nomatch panics
  exact ends.of_eq ran rfl

end Guarded

theorem within_of_eq {frame : Frame} {body : Run ε α} {result : Except (Halt ε) α} {after : Node}
    (ran : body (node.marked (.began frame)) = (result, after)) :
    within frame body node = (result, after.marked (.ended frame)) := by
  have ends : (within frame body).Ends node fun result' after' =>
      (result', after') = (result, after.marked (.ended frame)) := by
    rw [ends_within, Ends, ran]
  exact ends

theorem within_eq_ok {frame : Frame} {body : Run ε α} {value : α} {after : Node}
    (ran : within frame body node = (.ok value, after)) : ∃ last,
      body (node.marked (.began frame)) = (.ok value, last) ∧ after = last.marked (.ended frame) := by
  have ends : (within frame body).Ends node fun result after => result = .ok value →
      ∃ last, body (node.marked (.began frame)) = (.ok value, last) ∧
        after = last.marked (.ended frame) := by
    rw [ends_within]
    exact fun same => ⟨_, Prod.ext same rfl, rfl⟩
  exact ends.of_eq ran rfl

end Run

end Provision
