import Provision.Object.Wire
import Provision.Proofs.Json.Typed

/-! # Keys and records are read back

A key and a record are printed as values of their forms. These have no untyped parts, so that each value of them
is decoded again as it was, whatever its texts and numbers are.
-/

namespace Provision

open Json

namespace Json

theorem Form.Storable.decode?_print {form : Form} {value : Value} (type : form.Storable)
    (holds : ∀ P, form.Holds P value) (plain : value.Plain nestingLimit) :
    form.decode? value.print = some value := by
  rw [Form.decode?, (type.decode_print_iff (holds _) plain).mpr (holds _)]
  rfl

namespace Shape

theorem holds_u32 (P : Value → Prop) (n : UInt32) : Holds P .u32 (.int n.toNat) := by
  have bound := n.toNat_lt
  exact .int (Int.natCast_nonneg _) (by omega)

theorem holds_u8 (P : Value → Prop) (b : UInt8) : Holds P .u8 (.int b.toNat) := by
  have bound := b.toNat_lt
  exact .int (Int.natCast_nonneg _) (by omega)

theorem storable_u32 : Storable .u32 := .int "u32" ⟨by decide, by decide⟩ ⟨by decide, by decide⟩

theorem storable_u8 : Storable .u8 := .int "u8" ⟨by decide, by decide⟩ ⟨by decide, by decide⟩

end Shape

end Json

namespace ObjectKey

theorem storable_form : form.Storable := by
  refine .struct (by decide) (fun field member => ?_) fun field member value default => ?_
  · simp only [List.mem_cons, List.not_mem_nil, or_false] at member
    rcases member with rfl | rfl | rfl
    · exact Shape.storable_u32
    · exact .string
    · exact .string
  · simp only [List.mem_cons, List.not_mem_nil, or_false] at member
    rcases member with rfl | rfl | rfl <;> cases default

theorem holds_toValue (key : ObjectKey) (P : Value → Prop) : form.Holds P key.toValue :=
  .struct (.cons ⟨rfl, Shape.holds_u32 P key.user⟩ (.cons ⟨rfl, .string _⟩ (.cons ⟨rfl, .string _⟩ .nil)))

theorem plain_toValue (key : ObjectKey) : key.toValue.Plain nestingLimit := by
  have shallow : Value.Plain 1 key.toValue := by
    refine .object fun member present => ?_
    simp only [List.mem_cons, List.not_mem_nil, or_false] at present
    rcases present with rfl | rfl | rfl
    · exact .int _
    · exact .string _
    · exact .string _
  exact shallow.mono (by decide)

theorem ofValue?_toValue (key : ObjectKey) : ofValue? key.toValue = some key := by
  simp [toValue, ofValue?]

theorem decode?_encode (key : ObjectKey) : decode? key.encode = some key := by
  rw [decode?, encode, storable_form.decode?_print key.holds_toValue key.plain_toValue]
  exact key.ofValue?_toValue

end ObjectKey

namespace Record

theorem storable_form : form.Storable := by
  refine .struct (by decide) (fun field member => ?_) fun field member value default => ?_
  · simp only [List.mem_cons, List.not_mem_nil, or_false] at member
    rcases member with rfl | rfl
    · exact .string
    · exact .list Shape.storable_u8
  · simp only [List.mem_cons, List.not_mem_nil, or_false] at member
    rcases member with rfl | rfl <;> cases default

theorem holds_toValue (record : Record) (P : Value → Prop) : form.Holds P record.toValue := by
  have bytes : Shape.Holds P (.list .u8) (.array (record.data.map fun b => .int b.toNat)) := by
    refine .list fun value member => ?_
    obtain ⟨b, -, rfl⟩ := List.mem_map.mp member
    exact Shape.holds_u8 P b
  exact .struct (.cons ⟨rfl, .string _⟩ (.cons ⟨rfl, bytes⟩ .nil))

theorem plain_toValue (record : Record) : record.toValue.Plain nestingLimit := by
  have bytes : Value.Plain 1 (.array (record.data.map fun b => .int b.toNat)) := by
    refine .array fun value member => ?_
    obtain ⟨b, -, rfl⟩ := List.mem_map.mp member
    exact .int _
  have shallow : Value.Plain 2 record.toValue := by
    refine .object fun member present => ?_
    simp only [List.mem_cons, List.not_mem_nil, or_false] at present
    rcases present with rfl | rfl
    · exact .string _
    · exact bytes
  exact shallow.mono (by decide)

theorem mapM_byteOfValue? (data : List UInt8) :
    (data.map fun b => Value.int b.toNat).mapM byteOfValue? = some data := by
  induction data with
  | nil => rfl
  | cons b data ih => simp [byteOfValue?, ih]

theorem ofValue?_toValue (record : Record) : ofValue? record.toValue = some record := by
  rw [toValue, ofValue?, mapM_byteOfValue?]
  rfl

theorem decode?_encode (record : Record) : decode? record.encode = some record := by
  rw [decode?, encode, storable_form.decode?_print record.holds_toValue record.plain_toValue]
  exact record.ofValue?_toValue

end Record

/-- Whatever is in a key or a record, its wire form is decoded as the same key or record. No two keys have one
    wire form, and no two records. -/
theorem keys_and_records_read_back :
    ((∀ key : ObjectKey, ObjectKey.decode? key.encode = some key) ∧
      ∀ record : Record, Record.decode? record.encode = some record) ∧
    (∀ key key' : ObjectKey, key.encode = key'.encode → key = key') ∧
    ∀ record record' : Record, record.encode = record'.encode → record = record' := by
  refine ⟨⟨ObjectKey.decode?_encode, Record.decode?_encode⟩, fun key key' same => ?_,
    fun record record' same => ?_⟩
  · have read := key.decode?_encode
    rw [same, key'.decode?_encode] at read
    exact (Option.some.inj read).symm
  · have read := record.decode?_encode
    rw [same, record'.decode?_encode] at read
    exact (Option.some.inj read).symm

end Provision
