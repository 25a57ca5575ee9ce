import Provision.Proofs.Run.History

/-! # Runs that wait

A run is brought to a halt where it would wait for a lock that it cannot have. It waits just if one of its
parts does, and only what asks for a lock waits by itself.
-/

namespace Provision.Run

variable {ε ε' α β : Type} {node : Node} {key : ObjectKey}

/-- The run gets to where it would wait for the lock of an object. -/
def Waits (body : Run ε α) (node : Node) (key : ObjectKey) : Prop :=
  (body node).1 = .error (.waits key)

def Patient (body : Run ε α) : Prop := ∀ node key, ¬body.Waits node key

theorem Patient.of_ends {body : Run ε α} {post : Node → Except (Halt ε) α → Node → Prop}
    (ends : ∀ node, body.Ends node (post node))
    (never : ∀ node key after, ¬post node (.error (.waits key)) after) : Patient body := by
  intro node key waits
  have met := ends node
  rw [Ends, waits] at met
  exact never node key _ met

section Bind

variable {body : Run ε α} {next : α → Run ε β}

theorem waits_bind : (body >>= next).Waits node key ↔
    body.Waits node key ∨ ∃ a mid, body node = (.ok a, mid) ∧ (next a).Waits mid key := by
  simp only [Waits, Bind.bind, ExceptT.bind, ExceptT.mk, StateT.bind, ExceptT.bindCont]
  cases first : body node with
  | mk result mid =>
      cases result with
      | ok a =>
          constructor
          · exact fun waits => .inr ⟨a, mid, rfl, waits⟩
          · rintro (waits | ⟨_, _, same, waits⟩)
            · cases waits
            · cases same
              exact waits
      | error halt =>
          constructor
          · intro waits
            cases waits
            exact .inl rfl
          · rintro (waits | ⟨_, _, same, -⟩)
            · cases waits
              rfl
            · cases same

theorem Patient.waits_bind (patient : Patient body) : (body >>= next).Waits node key ↔
    ∃ a mid, body node = (.ok a, mid) ∧ (next a).Waits mid key := by
  rw [Run.waits_bind, or_iff_right (patient node key)]

theorem waits_bind_patient (patient : ∀ a, Patient (next a)) :
    (body >>= next).Waits node key ↔ body.Waits node key := by
  rw [waits_bind, or_iff_left]
  rintro ⟨a, mid, -, waits⟩
  exact patient a mid key waits

end Bind

theorem waits_attempt {body : Run ε' α} :
    (attempt body : Run ε (Except ε' α)).Waits node key ↔ body.Waits node key := by
  simp only [Waits, attempt]
  cases body node with
  | mk result after =>
      cases result with
      | ok => simp
      | error halt => cases halt <;> simp

theorem waits_mapError {f : ε' → ε} {body : Run ε' α} :
    (body.mapError f).Waits node key ↔ body.Waits node key := by
  simp only [Waits, mapError]
  cases body node with
  | mk result after =>
      cases result with
      | ok => simp
      | error halt => cases halt <;> simp [Halt.map]

theorem mapError_eq_ok {f : ε' → ε} {body : Run ε' α} {value : α} {after : Node} :
    body.mapError f node = (.ok value, after) ↔ body node = (.ok value, after) := by
  simp only [mapError]
  cases body node with
  | mk result last =>
      cases result <;> constructor <;> intro same <;> cases same <;> rfl

theorem waits_within {frame : Frame} {body : Run ε α} :
    (within frame body).Waits node key ↔ body.Waits (node.marked (.began frame)) key := Iff.rfl

/-- A run that holds a lock waits for that lock, or where its body does. -/
theorem waits_guarded {scope : GuardScope} {object : ObjectKey} {mode : LockMode} {body : Run ε α}
    (back : ∀ hold held, (node.table scope).take? object.text mode = some (hold, held) →
      body.Ends (node.withTable scope held) fun _ after =>
        ∃ left, (after.table scope).leave? object.text hold = some left) :
    (guarded scope object mode body).Waits node key ↔
      key = object ∧ (node.table scope).take? object.text mode = none ∨
      ∃ hold held, (node.table scope).take? object.text mode = some (hold, held) ∧
        body.Waits (node.withTable scope held) key := by
  have ends : (guarded scope object mode body).Ends node fun result _ =>
      result = .error (.waits key) ↔
        key = object ∧ (node.table scope).take? object.text mode = none ∨
        ∃ hold held, (node.table scope).take? object.text mode = some (hold, held) ∧
          body.Waits (node.withTable scope held) key := by
    rw [ends_guarded]
    split
    next refused => simp [refused, eq_comm]
    next hold held taken =>
      have given := back hold held taken
      simp only [Ends] at given ⊢
      obtain ⟨left, leaves⟩ := given
      rw [leaves]
      constructor
      · exact fun waits => .inr ⟨hold, held, taken, waits⟩
      · rintro (⟨-, refused⟩ | ⟨_, _, again, waits⟩)
        · rw [taken] at refused
          cases refused
        · cases taken.symm.trans again
          exact waits
  exact ends

/-! ## Runs that never wait -/

theorem Patient.composed : Composed fun body => Patient body where
  pure _ _ _ := nofun
  fail _ _ _ := nofun
  bind first second node key waits := by
    rw [(first : Patient _).waits_bind] at waits
    obtain ⟨a, mid, -, further⟩ := waits
    exact second a mid key further
  attempt patient node key waits := patient node key (waits_attempt.mp waits)

theorem Patient.mapError {body : Run ε' α} (patient : Patient body) (f : ε' → ε) :
    Patient (body.mapError f) := fun node key waits => patient node key (waits_mapError.mp waits)

theorem Patient.mark (entry : Mark) : Patient (mark entry : Run ε Unit) := fun _ _ => nofun

theorem Patient.look : Patient (get : Run ε Node) := fun _ _ => nofun

theorem Patient.ask (call : StoreCall) :
    Patient (ask call : Run ε (Except StoreError call.Answer)) := by
  have answers : ∀ node, (Run.ask call : Run ε _).Ends node fun result _ =>
      ∃ reply, result = .ok reply := fun _ =>
    ends_ask (fun _ _ _ _ => ⟨_, rfl⟩) fun _ _ => ⟨_, rfl⟩
  exact .of_ends answers fun _ _ _ => nofun

theorem Patient.demand (call : StoreCall) : Patient (demand call) := by
  refine Patient.composed.bind (Patient.ask call) fun reply => ?_
  cases reply with
  | ok answer => exact Patient.composed.pure answer
  | error cause => exact Patient.composed.fail _

end Provision.Run
