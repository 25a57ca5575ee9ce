import Provision.Proofs.Json.Skipped
import Provision.Proofs.Json.Struct

/-! # What a decoded struct holds

A struct that is decoded, from an object or from an array, holds for each of its fields a value that was
read for the field, or what stands for the field where it was left out. What the shape of a field never
gives is in no decoded struct.
-/

namespace Provision.Json

open Reader

namespace Reader

variable {α β : Type} {text rest : Bytes} {value : α}

theorem placed_eq_ok {reader : Reader α} {result : α × Bytes} (read : placed reader text = .ok result) :
    reader text = .ok result := by
  rw [placed] at read
  split at read
  next result' same => rw [same, read]
  next => cases read

theorem closing_eq_ok {content : Reader α} {ending : Reader Unit}
    (read : closing content ending text = .ok (value, rest)) : ∃ mid, content text = .ok (value, mid) := by
  rw [closing] at read
  split at read
  next value' mid same =>
    split at read
    next =>
      cases read
      exact ⟨mid, same⟩
    next => cases read
  next => split at read <;> cases read

/-- The reader accepts nothing. -/
def Refuses (reader : Reader α) : Prop := ∀ text result, reader text ≠ .ok result

theorem refuses_refuse (cause : Cause) : Refuses (refuse cause : Reader α) := fun _ _ => nofun

theorem refuses_stopAhead (cause : Cause) : Refuses (stopAhead cause : Reader α) := fun _ _ => nofun

theorem Refuses.after {next : α → Reader β} (refuses : ∀ a, Refuses (next a)) (first : Reader α) :
    Refuses (first >>= next) := by
  intro text result read
  obtain ⟨a, rest, -, last⟩ := bind_eq_ok read
  exact refuses a rest result last

end Reader

theorem refuses_misfit {α : Type} (expected : String) : Refuses (misfit expected : Reader α) := by
  refine .after (fun ahead => ?_) _
  cases ahead with
  | none => exact refuses_stopAhead _
  | some b =>
      dsimp only
      have wordless (cause : Cause) (word : Reader Unit) :
          Refuses (do advance; word; refuse cause : Reader α) :=
        .after (fun _ => .after (fun _ => refuses_refuse cause) _) _
      repeat' split
      · exact wordless _ _
      · exact wordless _ _
      · exact wordless _ _
      · exact .after (fun number => refuses_refuse _) _
      · exact .after (fun _ => .after (fun s => refuses_refuse _) _) _
      · exact refuses_refuse _
      · exact refuses_refuse _
      · exact refuses_stopAhead _

theorem expecting_eq_ok {α : Type} {expected : String} {wanted : UInt8 → Bool} {reader : Reader α}
    {text rest : Bytes} {value : α} (read : expecting expected wanted reader text = .ok (value, rest)) :
    ∃ b more, wanted b = true ∧ reader (b :: more) = .ok (value, rest) := by
  rw [expecting, skipBlanks_bind] at read
  replace read := placed_eq_ok read
  rw [peek?_bind] at read
  cases start : text.dropWhile isBlank with
  | nil =>
      rw [start] at read
      cases read
  | cons b more =>
      rw [start] at read
      dsimp only [List.head?_cons] at read
      split at read
      next starts => exact ⟨b, more, starts, read⟩
      next => exact absurd read (refuses_misfit _ _ _)

/-! ## The values of a shape -/

namespace Shape

variable {depth : Nat} {text rest : Bytes} {value : Value}

theorem raw_eq_ok (read : Shape.raw.read depth text = .ok (value, rest)) :
    ∃ blanks kept, value = .raw kept ∧ text = blanks ++ (kept ++ rest) ∧ Blank blanks ∧
      WellFormed .value kept := by
  rw [Shape.read] at read
  obtain ⟨kept, _, front, same⟩ := bind_eq_ok read
  cases same
  obtain ⟨blanks, split, blank, known⟩ := readRaw_eq_ok front
  exact ⟨blanks, kept, rfl, split, blank, known⟩

/-- Where null is a value of its own, no text that is kept is null. -/
theorem option_raw_eq_ok (read : (Shape.option .raw).read depth text = .ok (value, rest)) :
    value = .null ∨ ∃ kept, value = .raw kept ∧ WellFormed .value kept ∧ kept ≠ Text.bytes "null" := by
  rw [Shape.read] at read
  rcases ahead_eq_ok read with ended | ⟨_, b, more, -, unblank, rfl, seen⟩
  · have empty : Shape.raw.read depth [] = .ok (value, rest) := ended
    obtain ⟨blanks, kept, -, split, -, known⟩ := raw_eq_ok empty
    obtain ⟨c, after, rfl, -⟩ := known.start
    simp at split
  split at seen
  next =>
    obtain ⟨⟨⟩, _, -, seen⟩ := bind_eq_ok seen
    obtain ⟨⟨⟩, _, -, seen⟩ := bind_eq_ok seen
    cases seen
    exact .inl rfl
  next other =>
    obtain ⟨blanks, kept, rfl, split, blank, known⟩ := raw_eq_ok seen
    -- Null starts with the byte that was not seen.
    refine .inr ⟨kept, rfl, known, ?_⟩
    rintro rfl
    cases blanks with
    | nil =>
        cases split
        exact other rfl
    | cons c blanks =>
        cases split
        exact absurd (blank b List.mem_cons_self) (by simp [unblank])

end Shape

/-! ## The fields of a struct -/

/-- A value was read for the field, or stands for it. -/
def Field.Gives (field : Field) (value : Value) : Prop :=
  (∃ depth text rest, field.shape.read depth text = .ok (value, rest)) ∨ field.missing? = some value

/-- Each member has the name of its field and a value that is given for it. -/
inductive Filled : List Field → List (String × Value) → Prop where
  | nil : Filled [] []
  | cons {field : Field} {fields : List Field} {value : Value} {members : List (String × Value)}
      (given : field.Gives value) (rest : Filled fields members) :
      Filled (field :: fields) ((field.name, value) :: members)

/-- What is found under a name was read for the field of that name. -/
def Found (fields : List Field) (found : List (String × Value)) : Prop :=
  ∀ name value, found.lookup name = some value →
    ∃ field depth text rest, fields.find? (fun field => field.name == name) = some field ∧
      field.shape.read depth text = .ok (value, rest)

theorem Found.cons {fields : List Field} {found : List (String × Value)} {field : Field} {name : String}
    {depth : Nat} {text rest : Bytes} {value : Value} (all : Found fields found)
    (wanted : fields.find? (fun field => field.name == name) = some field)
    (read : field.shape.read depth text = .ok (value, rest)) : Found fields ((name, value) :: found) := by
  intro other given here
  rw [List.lookup_cons] at here
  split at here
  next same =>
    cases here
    obtain rfl : other = name := by simpa using same
    exact ⟨field, depth, text, rest, wanted, read⟩
  next => exact all other given here

namespace Field

variable {fields known : List Field} {found values : List (String × Value)} {depth : Nat}
  {text rest : Bytes}

theorem readItems_eq_ok {expected : String} {index : Nat}
    (read : readItems expected depth index fields text = .ok (values, rest)) : Filled fields values := by
  induction fields generalizing index text values rest with
  | nil =>
      cases read
      exact .nil
  | cons field fields ih =>
      rw [readItems] at read
      obtain ⟨more, _, -, read⟩ := bind_eq_ok read
      split at read
      next =>
        obtain ⟨value, _, given, read⟩ := bind_eq_ok read
        obtain ⟨values, _, others, read⟩ := bind_eq_ok read
        cases read
        exact .cons (.inl ⟨_, _, _, given⟩) (ih others)
      next =>
        cases default : field.default? with
        | none =>
            rw [default] at read
            cases read
        | some value =>
            rw [default] at read
            obtain ⟨values, _, others, read⟩ := bind_eq_ok read
            cases read
            exact .cons (.inr (by rw [missing?, default]; rfl)) (ih others)

theorem readMembers_eq_ok {steps : Nat} {isFirst : Bool} (before : Found fields found)
    (read : readMembers fields depth steps isFirst found text = .ok (values, rest)) : Found fields values := by
  induction steps generalizing isFirst found text with
  | zero => cases read
  | succ steps ih =>
      rw [readMembers] at read
      obtain ⟨more, _, -, read⟩ := bind_eq_ok read
      split at read
      next =>
        obtain ⟨name, _, -, read⟩ := bind_eq_ok read
        cases wanted : fields.find? fun field => field.name == name with
        | none =>
            rw [wanted] at read
            obtain ⟨⟨⟩, _, -, read⟩ := bind_eq_ok read
            obtain ⟨⟨⟩, _, -, read⟩ := bind_eq_ok read
            exact ih before read
        | some field =>
            rw [wanted] at read
            dsimp only at read
            split at read
            next => cases read
            next =>
              obtain ⟨⟨⟩, _, -, read⟩ := bind_eq_ok read
              obtain ⟨value, _, given, read⟩ := bind_eq_ok read
              exact ih (before.cons wanted given) read
      next =>
        cases read
        exact before

theorem complete_eq_ok (distinct : (known.map Field.name).Nodup) (among : ∀ field ∈ fields, field ∈ known)
    (all : Found known found) (read : complete found fields text = .ok (values, rest)) :
    Filled fields values := by
  induction fields generalizing values text with
  | nil =>
      cases read
      exact .nil
  | cons field fields ih =>
      rw [complete] at read
      have given : ∀ value, (found.lookup field.name).or field.missing? = some value →
          field.Gives value := by
        intro value present
        rcases Option.or_eq_some_iff.mp present with here | ⟨-, absent⟩
        · -- No other field has the name, so what was found under it was read for this one.
          obtain ⟨other, depth, text, rest, wanted, read⟩ := all _ _ here
          rw [find?_of_mem distinct (among field List.mem_cons_self)] at wanted
          cases wanted
          exact .inl ⟨depth, text, rest, read⟩
        · exact .inr absent
      cases present : (found.lookup field.name).or field.missing? with
      | none =>
          rw [present] at read
          cases read
      | some value =>
          rw [present] at read
          obtain ⟨values, _, others, read⟩ := bind_eq_ok read
          cases read
          have known := fun other member => among other (List.mem_cons_of_mem _ member)
          exact .cons (given value present) (ih known others)

end Field

namespace Form

theorem decode?_eq_some {form : Form} {text : Bytes} {value : Value}
    (decoded : form.decode? text = some value) : ∃ rest, form.read text = .ok (value, rest) := by
  rw [decode?, decode, readWhole] at decoded
  split at decoded
  next => cases decoded
  next value rest read =>
    split at decoded <;> cases decoded
    exact ⟨rest, read⟩

theorem decode?_struct_eq_some {name : String} {fields : List Field} {text : Bytes} {value : Value}
    (distinct : (fields.map Field.name).Nodup) (decoded : (struct name fields).decode? text = some value) :
    ∃ members, value = .object members ∧ Filled fields members := by
  obtain ⟨_, read⟩ := decode?_eq_some decoded
  obtain ⟨b, more, -, read⟩ := expecting_eq_ok read
  obtain ⟨_, _, -, read⟩ := bind_eq_ok read
  split at read
  next =>
    obtain ⟨⟨⟩, _, -, read⟩ := bind_eq_ok read
    obtain ⟨members, _, closed, read⟩ := bind_eq_ok read
    cases read
    obtain ⟨_, items⟩ := closing_eq_ok closed
    exact ⟨members, rfl, Field.readItems_eq_ok items⟩
  next =>
    obtain ⟨⟨⟩, _, -, read⟩ := bind_eq_ok read
    obtain ⟨members, _, closed, read⟩ := bind_eq_ok read
    cases read
    obtain ⟨_, content⟩ := closing_eq_ok closed
    obtain ⟨found, _, front, completed⟩ := bind_eq_ok content
    have all : Found fields found := Field.readMembers_eq_ok (fun name value absent => by cases absent) front
    exact ⟨members, rfl, Field.complete_eq_ok distinct (fun _ => id) all completed⟩

end Form

end Provision.Json
