import Provision.Envelope
import Provision.Proofs.Json.Struct

/-! # Messages on the wire

A message is read back from its wire form, with its texts as they were written. Only a response whose
output is null comes back without one.
-/

namespace Provision

open Json

/-- The text is a value, without blanks around it. -/
def RawJson.WellFormed (raw : RawJson) : Prop := Json.WellFormed .value raw.text

theorem RawJson.WellFormed.ne_null {raw : RawJson} (known : raw.WellFormed) (other : raw ≠ .null) :
    ∃ b more, raw.text = b :: more ∧ Reader.isBlank b = false ∧ b ≠ 0x6e := by
  obtain ⟨text⟩ := raw
  cases known with
  | scalar known =>
      cases known with
      | null => exact absurd rfl other
      | true' | false' => exact ⟨_, _, rfl, rfl, by decide⟩
      | number literal =>
          obtain ⟨b, more, same, blank, -⟩ := (Scalar.number literal).start
          obtain ⟨b', more', same', starts⟩ := literal.start
          cases same.symm.trans same'
          refine ⟨b, more, same, blank, ?_⟩
          rintro rfl
          cases starts
      | string => exact ⟨_, _, rfl, rfl, by decide⟩
  | container container => cases container <;> exact ⟨_, _, rfl, rfl, by decide⟩

namespace Request

variable {request : Request}

theorem decode?_encode (known : request.payload.WellFormed) : decode? request.encode = some request := by
  have name (s : String) : Shape.string.Reads (Value.string s).print (.string s) := by
    rw [Value.print]
    exact Shape.reads_string s
  have payload : Shape.raw.Reads (Value.raw request.payload.text).print (.raw request.payload.text) := by
    rw [Value.print]
    exact Shape.reads_raw known
  have fits := @Fits.cons ⟨"action", .string, none⟩ _ _ _ _ _ (name request.action)
    (@Fits.cons ⟨"resource", .string, none⟩ _ _ _ _ _ (name request.object)
      (@Fits.cons ⟨"payload", .raw, some (.raw (Text.bytes "null"))⟩ _ _ _ _ _ payload .nil))
  rw [decode?, Form.decode?, form, encode, toValue, fits.decode (by decide)]
  rfl

end Request

namespace Response

variable {response : Response}

/-- A response without an output that is null. -/
def withoutNull (response : Response) : Response :=
  { response with payload := response.payload.filter (· ≠ .null) }

theorem reads_payload {payload : Option RawJson} (texts : ∀ raw ∈ payload, raw.WellFormed) :
    (Shape.option .raw).Reads (payload.elim Value.null fun raw => .raw raw.text).print
      ((payload.filter (· ≠ .null)).elim Value.null fun raw => .raw raw.text) := by
  cases payload with
  | none =>
      simp only [Option.elim_none, Option.filter_none, Value.print]
      exact Shape.reads_null .raw
  | some raw =>
      simp only [Option.elim_some, Value.print]
      have known := texts raw rfl
      by_cases null : raw = .null
      · subst null
        exact Shape.reads_null .raw
      · obtain ⟨b, more, same, blank, other⟩ := known.ne_null null
        rw [Option.filter_some_pos (by simpa using null), Option.elim_some, same]
        exact Shape.reads_some (same ▸ Shape.reads_raw known) blank other

theorem decode?_encode (texts : ∀ raw ∈ response.payload, raw.WellFormed) :
    decode? response.encode = some response.withoutNull := by
  have error : Shape.string.Reads (Value.string response.error).print (.string response.error) := by
    rw [Value.print]
    exact Shape.reads_string response.error
  have fits := @Fits.cons ⟨"error", .string, some (.string "")⟩ _ _ _ _ _ error
    (@Fits.cons ⟨"payload", .option .raw, some .null⟩ _ _ _ _ _ (reads_payload texts) .nil)
  rw [decode?, Form.decode?, form, encode, toValue, fits.decode (by decide)]
  cases kept : response.payload.filter (· ≠ .null) <;> rw [withoutNull, kept] <;> rfl

end Response

end Provision
