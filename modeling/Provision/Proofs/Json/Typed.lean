import Mathlib.Data.List.Forall2
import Provision.Proofs.Json.Reread

/-! # States of a type are read back

A state is a value of a form whose fields are integers, booleans, strings, untyped parts, and optional values
and lists of such. Whatever text is accepted, what it is decoded as is such a state. The compact form of a state
is decoded as the state again, unless an object in an untyped part is taken for the value of a text.
-/

namespace Provision.Json

open Reader

namespace Shape

/-- Whether null is a value of the type. -/
def nullable : Shape → Bool
  | unit | option _ | any => true
  | _ => false

/-- The types that states are made of. What is optional is never null where it is present. -/
inductive Storable : Shape → Prop where
  | bool : Storable .bool
  | int (name : String) {low high : Int} (least : Number.Fits64 low) (greatest : Number.Fits64 high) :
      Storable (.int name low high)
  | string : Storable .string
  | option {inner : Shape} (type : Storable inner) (solid : inner.nullable = false) : Storable (.option inner)
  | list {item : Shape} (type : Storable item) : Storable (.list item)
  | any : Storable .any

/-- The values of a type whose untyped parts have a property. -/
inductive Holds (P : Value → Prop) : Shape → Value → Prop where
  | bool (b : Bool) : Holds P .bool (.bool b)
  | int {name : String} {low high i : Int} (above : low ≤ i) (below : i ≤ high) :
      Holds P (.int name low high) (.int i)
  | string (s : String) : Holds P .string (.string s)
  | none {inner : Shape} : Holds P (.option inner) .null
  | some {inner : Shape} {value : Value} (holds : Holds P inner value) : Holds P (.option inner) value
  | list {item : Shape} {items : List Value} (all : ∀ value ∈ items, Holds P item value) :
      Holds P (.list item) (.array items)
  | any {value : Value} (holds : P value) : Holds P .any value

variable {P Q : Value → Prop} {shape inner : Shape} {value : Value}

theorem Holds.ne_null (holds : Holds P shape value) (solid : shape.nullable = false) : value ≠ .null := by
  rintro rfl
  cases holds <;> cases solid

theorem holds_option_iff (present : value ≠ .null) : Holds P (.option inner) value ↔ Holds P inner value := by
  refine ⟨fun holds => ?_, .some⟩
  cases holds with
  | none => exact absurd rfl present
  | some holds => exact holds

theorem holds_list_iff {items : List Value} :
    Holds P (.list inner) (.array items) ↔ ∀ value ∈ items, Holds P inner value :=
  ⟨fun holds => by cases holds; assumption, .list⟩

theorem holds_any_iff : Holds P .any value ↔ P value :=
  ⟨fun holds => by cases holds; assumption, .any⟩

/-! ## What is accepted is a value of the type -/

/-- What is accepted for a type is a value of the type. -/
theorem Storable.yields (type : shape.Storable) (depth : Nat) :
    Yields (shape.Holds Value.Untyped) (shape.read depth) := by
  induction type generalizing depth with
  | bool =>
      rw [Shape.read]
      refine .expecting (.after (fun ahead => ?_) _) _ _
      split <;> exact .after (fun _ => .after (fun _ => yields_pure (.bool _)) _) _
  | int name =>
      rw [Shape.read]
      refine .expecting (.after (fun number => ?_) _) _ _
      rw [integer]
      split
      next => exact (refuses_refuse _).yields
      next =>
        split
        next within => exact yields_pure (.int within.1 within.2)
        next => exact (refuses_refuse _).yields
  | string =>
      rw [Shape.read]
      exact .after (fun s => yields_pure (.string s)) _
  | option _ _ ih =>
      rw [Shape.read]
      refine .after (fun _ => .after (fun ahead => ?_) _) _
      split
      · exact .after (fun _ => .after (fun _ => yields_pure .none) _) _
      · exact (ih depth).imp fun value => .some
  | list _ ih =>
      rw [Shape.read]
      refine .expecting (.nested (fun depth => ?_) depth) _ _
      have items := (fun text => yields_readItems (ih depth) (text.length + 1) true text : Yields _ _)
      refine .bind ?_ fun items all => yields_pure (.list all)
      exact .after (fun _ => .closing items _) _
  | any =>
      rw [Shape.read]
      exact (yields_readAny depth).imp fun value written => .any written.untyped

/-! ## A value of the type is read back -/

theorem reads_bool (b : Bool) (depth : Nat) (rest : Bytes) :
    Shape.bool.read depth ((Value.bool b).print ++ rest) = .ok (.bool b, rest) := by
  cases b with
  | true =>
      have spelt : Text.bytes "true" = 0x74 :: Text.bytes "rue" := rfl
      simp [-bind_pure_comp, Shape.read, expecting, Value.print, spelt, isBlank, placed,
        bind_of_ok (word_append _ rest)]
  | false =>
      have spelt : Text.bytes "false" = 0x66 :: Text.bytes "alse" := rfl
      simp [-bind_pure_comp, Shape.read, expecting, Value.print, spelt, isBlank, placed,
        bind_of_ok (word_append _ rest)]

theorem reads_int {name : String} {low high i : Int} (above : low ≤ i) (below : i ≤ high)
    (fits : Number.Fits64 i) (depth : Nat) {rest : Bytes} (bounded : Number.Bounded rest) :
    (Shape.int name low high).read depth ((Value.int i).print ++ rest) = .ok (.int i, rest) := by
  obtain ⟨number, read, value⟩ := Number.read_ofInt fits bounded
  obtain ⟨b, more, printed, starts⟩ := (Number.literal_ofInt i).start
  have made : integer name low high number rest = .ok (.int i, rest) := by
    simp [integer, value, above, below]
  rw [printed, List.cons_append] at read
  rw [Value.print, printed, List.cons_append, Shape.read]
  exact expecting_of_ok (Value.isStart_unblank starts) starts (by rw [bind_of_ok read, made])

/-- A value of the type is read back just if its untyped parts are clear. -/
theorem Storable.recovers (type : shape.Storable) (holds : shape.Holds Value.Untyped value) {depth : Nat}
    (plain : value.Plain depth) : Recovers (shape.read depth) value (shape.Holds Value.Clear value) := by
  induction type generalizing value depth with
  | bool =>
      cases holds with
      | bool b => exact recovers_of_ok (.bool b) fun rest _ => reads_bool b depth rest
  | int name least greatest =>
      cases holds with
      | int above below =>
          have fits : Number.Fits64 _ :=
            ⟨Int.le_trans least.low above, Int.le_trans below greatest.high⟩
          exact recovers_of_ok (.int above below) fun rest bounded => reads_int above below fits depth bounded
  | string =>
      cases holds with
      | string s => exact recovers_of_ok (.string s) (reads_string s depth)
  | @option inner type solid ih =>
      cases holds with
      | none => exact recovers_of_ok .none (reads_null inner depth)
      | some holds =>
          have present := holds.ne_null solid
          obtain ⟨b, more, printed, lead⟩ := plain.lead
          have other : b ≠ 0x6e := by
            rintro rfl
            exact present lead.null_of_n
          intro rest bounded
          obtain ⟨result, takes, same⟩ := ih holds plain rest bounded
          refine ⟨result, ?_, same.trans (holds_option_iff present).symm⟩
          rw [printed, List.cons_append] at takes ⊢
          simpa [Takes, Shape.read, lead.unblank, other] using takes
  | @list item type ih =>
      cases holds with
      | list all =>
          cases plain with
          | array plain =>
              intro rest bounded
              have items := fun value member =>
                ih (all value member) (plain value member)
              obtain ⟨result, takes, same⟩ := recovers_array plain items rest bounded
              refine ⟨result, ?_, same.trans holds_list_iff.symm⟩
              rw [Value.print, List.cons_append] at takes ⊢
              exact takes_expecting rfl rfl takes
  | any =>
      cases holds with
      | any untyped =>
          intro rest bounded
          obtain ⟨result, takes, same⟩ := recovers_readAny plain untyped rest bounded
          exact ⟨result, takes, same.trans holds_any_iff.symm⟩

end Shape

/-! ## The fields of a struct -/

namespace Field

variable {fields known : List Field} {members values found : List (String × Value)}

theorem complete_of_found (names : values.map Prod.fst = fields.map Field.name)
    (all : ∀ name value, (name, value) ∈ values → found.lookup name = some value) (text : Bytes) :
    complete found fields text = .ok (values, text) := by
  induction fields generalizing values with
  | nil =>
      rw [List.map_eq_nil_iff.mp names]
      rfl
  | cons field fields ih =>
      obtain ⟨⟨name, value⟩, values, rfl, rfl, others⟩ := List.map_eq_cons_iff.mp names
      have rest := ih others fun name value member => all name value (List.mem_cons_of_mem _ member)
      simp [complete, all _ _ List.mem_cons_self, bind_of_ok rest]

variable {depth : Nat} {clear : Field → String × Value → Prop}

/-- What is read of printed fields does not depend on what was found before. -/
theorem takes_readMembers
    (all : List.Forall₂ (fun field member => field.name = member.1 ∧
      Recovers (field.shape.read depth) member.2 (clear field member)) fields members)
    (distinct : (known.map Field.name).Nodup) (among : ∀ field ∈ fields, field ∈ known)
    (apart : (fields.map Field.name).Nodup) (isFirst : Bool) (rest : Bytes) :
    ∃ results, (∀ found steps, (∀ field ∈ fields, found.lookup field.name = none) → fields.length ≤ steps →
        Takes (Field.readMembers known depth (steps + 1) isFirst found) (remaining isFirst members ++ 0x7d :: rest)
          (0x7d :: rest) (results.map fun values => values.reverse ++ found)) ∧
      (∀ values, results = some values → values.map Prod.fst = fields.map Field.name) ∧
      (results = some members ↔ List.Forall₂ clear fields members) := by
  induction all generalizing isFirst with
  | nil =>
      refine ⟨some [], fun found steps _ _ => takes_of_ok ?_, ?_, by simp⟩
      · rw [Field.readMembers, bind_of_ok nextMember_nil]
        rfl
      · rintro _ ⟨⟩
        rfl
  | @cons field member fields members both _ ih =>
      obtain ⟨name, value⟩ := member
      obtain ⟨rfl, recovers⟩ := both
      obtain ⟨own, others⟩ := List.nodup_cons.mp apart
      obtain ⟨first, takes, same⟩ := recovers _ bounded_further
      obtain ⟨results, takesOthers, names, sameOthers⟩ :=
        ih (fun other member => among other (List.mem_cons_of_mem _ member)) others false
      refine ⟨first.bind fun value => results.map fun values => (field.name, value) :: values, ?_, ?_, ?_⟩
      · intro found steps fresh enough
        obtain ⟨steps, rfl⟩ := Nat.exists_eq_succ_of_ne_zero (Nat.ne_zero_of_lt enough)
        have wanted := find?_of_mem distinct (among field List.mem_cons_self)
        have new := fresh field List.mem_cons_self
        have unseen : ∀ value, ∀ other ∈ fields, ((field.name, value) :: found).lookup other.name = none := by
          intro value other member
          have different : other.name ≠ field.name := fun same => own (same ▸ List.mem_map_of_mem member)
          rw [List.lookup_cons, beq_eq_false_iff_ne.mpr different]
          exact fresh other (List.mem_cons_of_mem _ member)
        rw [Field.readMembers, Takes, bind_of_ok nextMember_cons]
        simp only [↓reduceIte, wanted, new, Option.isSome_none, Bool.false_eq_true,
          bind_of_ok (readName_encode _ _), bind_of_ok (colon_cons _)]
        have onward := fun value (_ : first = some value) =>
          takesOthers ((field.name, value) :: found) steps (unseen value) (Nat.le_of_succ_le_succ enough)
        refine (takes.bind onward).trans ?_
        cases first <;> cases results <;> simp
      · intro values made
        obtain ⟨value, -, made⟩ := Option.bind_eq_some_iff.mp made
        obtain ⟨values, known, rfl⟩ := Option.map_eq_some_iff.mp made
        simp [names values known]
      · simp [Option.bind_eq_some_iff, same, sameOthers]

theorem complete_reverse (distinct : (fields.map Field.name).Nodup)
    (names : values.map Prod.fst = fields.map Field.name) (text : Bytes) :
    Field.complete (values.reverse ++ []) fields text = .ok (values, text) := by
  have apart : (values.reverse.map Prod.fst).Nodup := by
    rw [List.map_reverse, names]
    exact List.pairwise_reverse.mpr (distinct.imp Ne.symm)
  refine complete_of_found names (fun name value member => ?_) text
  rw [List.append_nil]
  exact lookup_of_mem apart (List.mem_reverse.mpr member)

/-- The fields of a printed object are found in their order, and none is missing. -/
theorem takes_fields
    (all : List.Forall₂ (fun field member => field.name = member.1 ∧
      Recovers (field.shape.read depth) member.2 (clear field member)) fields members)
    (distinct : (fields.map Field.name).Nodup) (rest : Bytes) :
    ∃ results, Takes (do
        let found ← fun text => Field.readMembers fields depth (text.length + 1) true [] text
        Field.complete found fields) (remaining true members ++ 0x7d :: rest) (0x7d :: rest) results ∧
      (results = some members ↔ List.Forall₂ clear fields members) := by
  obtain ⟨results, takes, names, same⟩ := takes_readMembers all distinct (fun _ => id) distinct true rest
  have enough : fields.length ≤ (remaining true members ++ 0x7d :: rest).length := by
    rw [all.length_eq, List.length_append]
    exact Nat.le_add_right_of_le (length_printMembers members)
  have front : Takes (fun text => Field.readMembers fields depth (text.length + 1) true [] text)
      (remaining true members ++ 0x7d :: rest) (0x7d :: rest)
      (results.map fun values => values.reverse ++ []) :=
    takes [] _ (fun _ _ => rfl) enough
  have unchanged : ((results.map fun values => values.reverse ++ []).bind fun _ => results) = results := by
    cases results <;> rfl
  refine ⟨results, unchanged ▸ front.bind fun found made => ?_, same⟩
  obtain ⟨values, known, rfl⟩ := Option.map_eq_some_iff.mp made
  rw [known]
  exact takes_of_ok (complete_reverse distinct (names values known) _)

end Field

/-! ## Forms -/

namespace Form

/-- The types of states. -/
inductive Storable : Form → Prop where
  | plain {shape : Shape} (type : shape.Storable) : Storable (.plain shape)
  | struct {name : String} {fields : List Field} (distinct : (fields.map Field.name).Nodup)
      (types : ∀ field ∈ fields, field.shape.Storable)
      (defaults : ∀ field ∈ fields, ∀ value, field.default? = some value →
        field.shape.Holds Value.Untyped value) : Storable (.struct name fields)

/-- The values of a form whose untyped parts have a property. -/
inductive Holds (P : Value → Prop) : Form → Value → Prop where
  | plain {shape : Shape} {value : Value} (holds : shape.Holds P value) : Holds P (.plain shape) value
  | struct {name : String} {fields : List Field} {members : List (String × Value)}
      (all : List.Forall₂ (fun field member => field.name = member.1 ∧ field.shape.Holds P member.2)
        fields members) : Holds P (.struct name fields) (.object members)

variable {form : Form} {P : Value → Prop} {value : Value} {text : Bytes}

theorem holds_plain_iff {shape : Shape} : Holds P (.plain shape) value ↔ shape.Holds P value :=
  ⟨fun holds => by cases holds; assumption, .plain⟩

theorem holds_struct_iff {name : String} {fields : List Field} {members : List (String × Value)} :
    Holds P (.struct name fields) (.object members) ↔
      List.Forall₂ (fun field member => field.name = member.1 ∧ field.shape.Holds P member.2) fields members :=
  ⟨fun holds => by cases holds; assumption, .struct⟩

theorem decode?_of_decodeText (decoded : form.decodeText text = .ok value) :
    form.decode? text = some value := by
  rw [decodeText] at decoded
  rw [decode?]
  cases read : form.decode text with
  | error failure =>
      rw [read] at decoded
      cases decoded
  | ok read =>
      rw [read] at decoded
      cases decoded
      rfl

/-- What is accepted for a form is a value of the form. -/
theorem Storable.accepted (type : form.Storable) (decoded : form.decode? text = some value) :
    form.Holds Value.Untyped value := by
  cases type with
  | plain type =>
      obtain ⟨rest, read⟩ := decode?_eq_some decoded
      exact .plain (type.yields _ text value rest read)
  | struct distinct types defaults =>
      obtain ⟨members, rfl, filled⟩ := decode?_struct_eq_some distinct decoded
      refine .struct ?_
      clear decoded distinct
      induction filled with
      | nil => exact .nil
      | @cons field fields value members given _ ih =>
          have others := ih (fun other member => types other (List.mem_cons_of_mem _ member))
            (fun other member => defaults other (List.mem_cons_of_mem _ member))
          refine .cons ⟨rfl, ?_⟩ others
          rcases given with ⟨depth, text, rest, read⟩ | missing
          · exact (types field List.mem_cons_self).yields depth text value rest read
          · rcases Option.or_eq_some_iff.mp missing with default | ⟨-, absent⟩
            · exact defaults field List.mem_cons_self value default
            · split at absent
              next shape =>
                cases absent
                rw [shape]
                exact .none
              next => cases absent

theorem recovers_fields {depth : Nat} {fields : List Field}
    {members : List (String × Value)}
    (holds : List.Forall₂ (fun field member => field.name = member.1 ∧
      field.shape.Holds Value.Untyped member.2) fields members)
    (types : ∀ field ∈ fields, field.shape.Storable) (plain : ∀ member ∈ members, member.2.Plain depth) :
    List.Forall₂ (fun field member => field.name = member.1 ∧ Recovers (field.shape.read depth) member.2
      (field.name = member.1 ∧ field.shape.Holds Value.Clear member.2)) fields members := by
  induction holds with
  | nil => exact .nil
  | @cons field member fields members both _ ih =>
      have others := ih (fun other member => types other (List.mem_cons_of_mem _ member))
        (fun other member => plain other (List.mem_cons_of_mem _ member))
      refine .cons ⟨both.1, fun rest bounded => ?_⟩ others
      obtain ⟨result, takes, same⟩ := (types field List.mem_cons_self).recovers both.2
        (plain member List.mem_cons_self) rest bounded
      exact ⟨result, takes, same.trans (and_iff_right both.1).symm⟩

theorem Storable.recovers (type : form.Storable) (holds : form.Holds Value.Untyped value)
    (plain : value.Plain nestingLimit) : Recovers form.read value (form.Holds Value.Clear value) := by
  cases type with
  | plain type =>
      cases holds with
      | plain holds =>
          intro rest bounded
          obtain ⟨result, takes, same⟩ := type.recovers holds plain rest bounded
          exact ⟨result, takes, same.trans holds_plain_iff.symm⟩
  | @struct name fields distinct types =>
      cases holds with
      | @struct _ _ members holds =>
          cases plain with
          | object plain =>
              intro rest _
              have all := recovers_fields holds types plain
              obtain ⟨results, takes, same⟩ := Field.takes_fields all distinct rest
              have text : (Value.object members).print ++ rest =
                  0x7b :: (remaining true members ++ 0x7d :: rest) := by simp [Value.print, remaining]
              rw [text]
              refine ⟨results.bind fun members => some (.object members), takes_expecting rfl rfl ?_, ?_⟩
              · rw [Takes, nested_nestingLimit, readStruct_object]
                exact (takes.closing (endObject_cons rest)).bind fun members _ => takes_of_ok rfl
              · rw [holds_struct_iff, ← same]
                simp [Option.bind_eq_some_iff]

/-- A value of the form is decoded again as it was just if its untyped parts are clear. -/
theorem Storable.decode_print_iff (type : form.Storable) (holds : form.Holds Value.Untyped value)
    (plain : value.Plain nestingLimit) :
    form.decode value.print = .ok value ↔ form.Holds Value.Clear value := by
  obtain ⟨result, takes, same⟩ := type.recovers holds plain [] nofun
  rw [List.append_nil] at takes
  rw [← same, decode, readWhole]
  rcases takes.ok_or_error with ⟨read, accepted, rfl⟩ | ⟨failure, refused, rfl⟩
  · rw [accepted]
    simp
  · rw [refused]
    simp

end Form

end Provision.Json
