import Provision.Json.Shape
import Provision.Proofs.Json.Quoted
import Provision.Proofs.Json.WellFormed
import Provision.Proofs.Named

/-! # Printed structs are read back

A struct is printed with all its fields, in the order in which they are declared. If each field is read
back from what was printed for it, so is the struct.
-/

namespace Provision.Json

open Reader

namespace Reader

theorem expecting_of_ok {α : Type} {expected : String} {wanted : UInt8 → Bool} {reader : Reader α}
    {b : UInt8} {text rest : Bytes} {value : α} (blank : isBlank b = false) (starts : wanted b = true)
    (read : reader (b :: text) = .ok (value, rest)) :
    expecting expected wanted reader (b :: text) = .ok (value, rest) := by
  simp [expecting, blank, placed, starts, read]

theorem closing_of_ok {α : Type} {content : Reader α} {ending : Reader Unit} {text mid rest : Bytes}
    {value : α} (read : content text = .ok (value, mid)) (ends : ending mid = .ok ((), rest)) :
    closing content ending text = .ok (value, rest) := by
  simp [closing, read, ends]

end Reader

/-! ## Values of a shape -/

/-- A text is read as a value of a shape, however deep it stands and whatever stands behind it. -/
def Shape.Reads (shape : Shape) (text : Bytes) (value : Value) : Prop :=
  ∀ depth rest, Number.Bounded rest → shape.read depth (text ++ rest) = .ok (value, rest)

namespace Shape

theorem reads_string (s : String) : Shape.string.Reads (Quoted.encode s) (.string s) := by
  intro depth rest _
  have read : (do advance; Quoted.read : Reader String) (Quoted.encode s ++ rest) = .ok (s, rest) := by
    simp [Quoted.encode, Quoted.read_escape]
  have quoted : readString Shape.string.expected (Quoted.encode s ++ rest) = .ok (s, rest) :=
    expecting_of_ok rfl rfl read
  rw [Shape.read, bind_of_ok quoted]
  rfl

theorem reads_raw {text : Bytes} (known : WellFormed .value text) : Shape.raw.Reads text (.raw text) := by
  intro depth rest bounded
  rw [Shape.read, bind_of_ok (known.readRaw bounded)]
  rfl

theorem reads_null (inner : Shape) : (Shape.option inner).Reads (Text.bytes "null") .null := by
  intro depth rest _
  have spelt : Text.bytes "null" = 0x6e :: Text.bytes "ull" := rfl
  simp [Shape.read, spelt, isBlank]
  rfl

theorem reads_some {inner : Shape} {value : Value} {b : UInt8} {more : Bytes}
    (reads : inner.Reads (b :: more) value) (blank : isBlank b = false) (other : b ≠ 0x6e) :
    (Shape.option inner).Reads (b :: more) value := by
  intro depth rest bounded
  simpa [Shape.read, blank, other] using reads depth rest bounded

end Shape

/-! ## The fields of a struct -/

/-- In a struct, one container less may be opened. -/
theorem nested_nestingLimit {α : Type} (container : Nat → Reader α) :
    nested nestingLimit container = container 126 :=
  rfl

/-- A struct that is written as an object is read from its members. -/
theorem readStruct_object (name : String) (fields : List Field) (depth : Nat) (text : Bytes) :
    Form.readStruct name fields depth (0x7b :: text) =
      (do
        let members ← closing
          (do
            let found ← fun text => Field.readMembers fields depth (text.length + 1) true [] text
            Field.complete found fields)
          endObject
        return .object members : Reader Value) text := by
  have object : ¬(0x7b : UInt8) = 0x5b := by decide
  simp only [Form.readStruct, peek?_bind, advance_bind, List.head?_cons, Option.some.injEq, object,
    ↓reduceIte, List.tail_cons]

/-- Each field is read from what is printed for it, as a value. -/
inductive Fits : List Field → List (String × Value) → List (String × Value) → Prop where
  | nil : Fits [] [] []
  | cons {field : Field} {fields : List Field} {written value : Value}
      {members values : List (String × Value)} (reads : field.shape.Reads written.print value)
      (rest : Fits fields members values) :
      Fits (field :: fields) ((field.name, written) :: members) ((field.name, value) :: values)

def further : List (String × Value) → Bytes
  | [] => []
  | members => 0x2c :: Value.printMembers members

theorem printMembers_cons (name : String) (value : Value) (members : List (String × Value)) :
    Value.printMembers ((name, value) :: members) =
      Quoted.encode name ++ 0x3a :: (value.print ++ further members) := by
  cases members with
  | nil => simp [Value.printMembers, further]
  | cons => simp [Value.printMembers, further]

/-- What is left of a printed object in front of a member, behind another one or not. -/
def remaining (isFirst : Bool) (members : List (String × Value)) : Bytes :=
  if isFirst then Value.printMembers members else further members

theorem nextMember_cons {isFirst : Bool} {name : String} {value : Value}
    {members : List (String × Value)} {rest : Bytes} :
    nextMember isFirst (remaining isFirst ((name, value) :: members) ++ rest) =
      .ok (true, Quoted.encode name ++ 0x3a :: (value.print ++ (further members ++ rest))) := by
  have quote : isBlank Quoted.quoteByte = false := rfl
  have comma : isBlank 0x2c = false := rfl
  have inside : Quoted.quoteByte ≠ 0x7d := by decide
  cases isFirst with
  | true => simp [remaining, printMembers_cons, nextMember, Quoted.encode, quote, inside]
  | false => simp [remaining, further, printMembers_cons, nextMember, Quoted.encode, quote, comma]

theorem nextMember_nil {isFirst : Bool} {rest : Bytes} :
    nextMember isFirst (remaining isFirst [] ++ 0x7d :: rest) = .ok (false, 0x7d :: rest) := by
  cases isFirst <;> simp [remaining, Value.printMembers, further, nextMember, isBlank]

theorem bounded_further {members : List (String × Value)} {rest : Bytes} :
    Number.Bounded (further members ++ 0x7d :: rest) := by
  cases members <;> rintro _ ⟨⟩ <;> decide

theorem readName_encode (name : String) (rest : Bytes) :
    readName (Quoted.encode name ++ rest) = .ok (name, rest) := by
  simp [readName, Quoted.encode, Quoted.read_escape]

theorem colon_cons (rest : Bytes) : colon (0x3a :: rest) = .ok ((), rest) := by
  simp [colon, isBlank, advance]

theorem endObject_cons (rest : Bytes) : endObject (0x7d :: rest) = .ok ((), rest) := by
  simp [endObject, isBlank, advance]

namespace Fits

variable {fields known : List Field} {members values found : List (String × Value)}

theorem length_le (fits : Fits fields members values) :
    fields.length ≤ (Value.printMembers members).length := by
  induction fits with
  | nil => exact Nat.zero_le _
  | @cons field fields written value members values reads rest ih =>
      rw [printMembers_cons]
      have more : (Value.printMembers members).length ≤ (further members).length := by
        cases members <;> simp [further, Value.printMembers]
      simp only [List.length_cons, List.length_append]
      omega

/-- Printed members are found, each under its name, beside what was found before. -/
theorem readMembers (fits : Fits fields members values) (distinct : (known.map Field.name).Nodup)
    (among : ∀ field ∈ fields, field ∈ known) (apart : (fields.map Field.name).Nodup)
    (fresh : ∀ field ∈ fields, found.lookup field.name = none) {steps : Nat}
    (enough : fields.length ≤ steps) (depth : Nat) (isFirst : Bool) (rest : Bytes) :
    ∃ all, Field.readMembers known depth (steps + 1) isFirst found
        (remaining isFirst members ++ 0x7d :: rest) = .ok (all, 0x7d :: rest) ∧
      (∀ name value, (name, value) ∈ values → all.lookup name = some value) ∧
      ∀ name, name ∉ fields.map Field.name → all.lookup name = found.lookup name := by
  induction fits generalizing found steps isFirst with
  | nil =>
      refine ⟨found, ?_, by simp, fun _ _ => rfl⟩
      rw [Field.readMembers, bind_of_ok nextMember_nil]
      rfl
  | @cons field fields written value members values reads _ ih =>
      obtain ⟨steps, rfl⟩ := Nat.exists_eq_succ_of_ne_zero (Nat.ne_zero_of_lt enough)
      obtain ⟨own, others⟩ := List.nodup_cons.mp apart
      have wanted := find?_of_mem distinct (among field List.mem_cons_self)
      have new := fresh field List.mem_cons_self
      have unseen : ∀ other ∈ fields, ((field.name, value) :: found).lookup other.name = none := by
        intro other member
        have different : other.name ≠ field.name := fun same =>
          own (same ▸ List.mem_map_of_mem member)
        rw [List.lookup_cons, beq_eq_false_iff_ne.mpr different]
        exact fresh other (List.mem_cons_of_mem _ member)
      obtain ⟨all, read, here, elsewhere⟩ := ih
        (fun other member => among other (List.mem_cons_of_mem _ member)) others unseen
        (Nat.le_of_succ_le_succ enough) false
      refine ⟨all, ?_, fun name other member => ?_, fun name outside => ?_⟩
      · rw [Field.readMembers, bind_of_ok nextMember_cons]
        simp only [↓reduceIte, wanted, new, Option.isSome_none, Bool.false_eq_true,
          bind_of_ok (readName_encode _ _), bind_of_ok (colon_cons _),
          bind_of_ok (reads _ _ bounded_further)]
        exact read
      · rcases List.mem_cons.mp member with same | later
        · cases same
          rw [elsewhere _ own]
          simp
        · exact here name other later
      · rw [List.map_cons, List.mem_cons, not_or] at outside
        rw [elsewhere name outside.2, List.lookup_cons, beq_eq_false_iff_ne.mpr outside.1]

/-- The fields are completed by what was found for them. -/
theorem complete (fits : Fits fields members values)
    (all : ∀ name value, (name, value) ∈ values → found.lookup name = some value) (text : Bytes) :
    Field.complete found fields text = .ok (values, text) := by
  induction fits with
  | nil => rfl
  | cons reads _ ih =>
      have rest := ih fun name value member => all name value (List.mem_cons_of_mem _ member)
      simp [Field.complete, all _ _ List.mem_cons_self, bind_of_ok rest]

theorem decode (fits : Fits fields members values) (distinct : (fields.map Field.name).Nodup)
    (name : String) :
    (Form.struct name fields).decode (Value.object members).print = .ok (.object values) := by
  have unfound : ∀ field ∈ fields, ([] : List (String × Value)).lookup field.name = none :=
    fun _ _ => rfl
  have enough : fields.length ≤ (Value.printMembers members ++ [0x7d]).length := by
    rw [List.length_append]
    exact Nat.le_add_right_of_le fits.length_le
  have content (depth : Nat) : (do
      let found ← fun text => Field.readMembers fields depth (text.length + 1) true [] text
      Field.complete found fields : Reader (List (String × Value)))
        (Value.printMembers members ++ [0x7d]) = .ok (values, [0x7d]) := by
    obtain ⟨all, read, here, -⟩ :=
      fits.readMembers distinct (fun _ => id) distinct unfound enough depth true []
    refine (bind_of_ok ?_).trans (fits.complete here _)
    exact read
  have whole : (Form.struct name fields).read (Value.object members).print =
      .ok (.object values, []) := by
    refine expecting_of_ok rfl rfl ?_
    rw [nested_nestingLimit, readStruct_object, bind_of_ok (closing_of_ok (content _) (endObject_cons []))]
    rfl
  simp [Form.decode, readWhole, whole]

end Fits

end Provision.Json
