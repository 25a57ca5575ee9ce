import Provision.Proofs.Envelope.Wire
import Provision.Proofs.Json.Decoded

/-! # Messages survive the wire

What is decoded is well formed, so that it is read back from its own wire form, whatever the text was that
it came from. Of a response only the difference between no output and one that is null is lost, and nobody
who decodes the output can tell the one from the other.
-/

namespace Provision

open Json

theorem RawJson.wellFormed_null : RawJson.null.WellFormed := .scalar .null

namespace Request

variable {request : Request} {wire : Bytes}

theorem wellFormed_of_decode? (decoded : decode? wire = some request) : request.payload.WellFormed := by
  obtain ⟨value, read, shown⟩ := Option.bind_eq_some_iff.mp decoded
  obtain ⟨members, rfl, filled⟩ := Form.decode?_struct_eq_some (by decide) read
  -- Only the payload is kept as it was written; the names were read as strings.
  rcases filled with _ | ⟨-, _ | ⟨-, _ | ⟨given, ⟨⟩⟩⟩⟩
  rw [ofValue?.eq_def] at shown
  split at shown
  next action object text same =>
    cases shown
    cases same
    rcases given with ⟨_, _, _, read⟩ | absent
    · obtain ⟨_, kept, same, -, -, known⟩ := Shape.raw_eq_ok read
      cases same
      exact known
    · cases absent
      exact RawJson.wellFormed_null
  next => cases shown

/-- A request is read back from its wire form just if its payload is a JSON text, and so is every request
    that was read from any text. -/
theorem decode?_encode_iff_wellFormed (request : Request) :
    (decode? request.encode = some request ↔ request.payload.WellFormed) ∧
      ∀ wire, decode? wire = some request → decode? request.encode = some request :=
  ⟨⟨wellFormed_of_decode?, decode?_encode⟩,
    fun _ decoded => decode?_encode (wellFormed_of_decode? decoded)⟩

/-- Control characters, half of a surrogate pair and a name that is given twice survive. -/
theorem decode?_encode_escapes :
    ∃ request,
      decode? (Text.bytes
        "[\"say \\\"a\\\"\", \"\\u0000\\\\\", [\"\\ud800\",  \x7b\"k\" : 1e5, \"k\":[]\x7d] ]") = some request ∧
      request.payload.WellFormed ∧ decode? request.encode = some request := by
  have survives {wire : Bytes} {request : Request} (read : decode? wire = some request) :
      decode? wire = some request ∧ request.payload.WellFormed ∧ decode? request.encode = some request := by
    obtain ⟨known, again⟩ := decode?_encode_iff_wellFormed request
    exact ⟨read, known.mp (again wire read), again wire read⟩
  exact ⟨⟨"say \"a\"", "\x00\\", ⟨Text.bytes "[\"\\ud800\",  \x7b\"k\" : 1e5, \"k\":[]\x7d]"⟩⟩,
    survives (by decide +kernel)⟩

end Request

namespace Response

variable {response : Response} {wire : Bytes}

theorem payload_of_decode? (decoded : decode? wire = some response) :
    ∀ raw ∈ response.payload, raw.WellFormed ∧ raw ≠ .null := by
  obtain ⟨value, read, shown⟩ := Option.bind_eq_some_iff.mp decoded
  obtain ⟨members, rfl, filled⟩ := Form.decode?_struct_eq_some (by decide) read
  rcases filled with _ | ⟨-, _ | ⟨given, ⟨⟩⟩⟩
  rw [ofValue?.eq_def] at shown
  split at shown
  next =>
    cases shown
    exact fun _ absent => nomatch absent
  next error text same =>
    cases shown
    cases same
    rintro _ ⟨⟩
    rcases given with ⟨_, _, _, read⟩ | absent
    · rcases Shape.option_raw_eq_ok read with null | ⟨kept, same, known, other⟩
      · cases null
      · cases same
        exact ⟨known, fun null => other (congrArg RawJson.text null)⟩
    · cases absent
  next => cases shown

theorem decode?_encode_self (kept : ∀ raw ∈ response.payload, raw.WellFormed ∧ raw ≠ .null) :
    decode? response.encode = some response := by
  have all : response.payload.filter (· ≠ .null) = response.payload := by
    cases given : response.payload with
    | none => rfl
    | some raw => exact Option.filter_some_pos (by simpa using (kept raw given).2)
  rw [decode?_encode fun raw given => (kept raw given).1, withoutNull, all]

/-- Nobody who decodes the output sees whether there is none or it is null. -/
theorem outputAs_withoutNull {α : Type} (decoder : Bytes → Option α) :
    response.withoutNull.outputAs decoder = response.outputAs decoder := by
  have same : (response.payload.filter (· ≠ .null)).getD .null = response.payload.getD .null := by
    cases response.payload with
    | none => rfl
    | some raw =>
        by_cases null : raw = .null
        · rw [null]
          rfl
        · rw [Option.filter_some_pos (by simpa using null)]
  rw [outputAs, withoutNull, same, outputAs]

/-- A response is read back with the same error, the same output unless it was null, and nothing else that
    a decoder of outputs could see; one that was read from any text is read back as it is. -/
theorem decode?_encode_up_to_null (response : Response) :
    ((∀ raw ∈ response.payload, raw.WellFormed) →
      ∃ decoded, decode? response.encode = some decoded ∧ decoded.error = response.error ∧
        decoded.payload = response.payload.filter (· ≠ .null) ∧
        ∀ {α : Type} (decoder : Bytes → Option α),
          decoded.outputAs decoder = response.outputAs decoder) ∧
      (decode? response.encode = some response ↔
        ∀ raw ∈ response.payload, raw.WellFormed ∧ raw ≠ .null) ∧
      ∀ wire, decode? wire = some response → decode? response.encode = some response := by
  refine ⟨fun texts => ?_, ⟨payload_of_decode?, decode?_encode_self⟩, fun wire decoded => ?_⟩
  · exact ⟨_, decode?_encode texts, rfl, rfl, outputAs_withoutNull⟩
  · exact decode?_encode_self (payload_of_decode? decoded)

/-- An output that is null is lost, and so is a field that is not known. -/
theorem decode?_encode_lost :
    decode? (encode ⟨"disk busy", some .null⟩) = some ⟨"disk busy", none⟩ ∧
      ∃ response, decode? (Text.bytes "\x7b\"payload\" : [1, [ ]], \"x\":[\x7b\x7d]\x7d") = some response ∧
        decode? response.encode = some response := by
  have survives {wire : Bytes} {response : Response} (read : decode? wire = some response) :
      decode? wire = some response ∧ decode? response.encode = some response := by
    obtain ⟨-, -, again⟩ := decode?_encode_up_to_null response
    exact ⟨read, again wire read⟩
  obtain ⟨observed, -, -⟩ := decode?_encode_up_to_null ⟨"disk busy", some .null⟩
  obtain ⟨⟨_, _⟩, read, rfl, rfl, -⟩ := observed (by rintro _ ⟨⟩; exact RawJson.wellFormed_null)
  exact ⟨read, ⟨"", some ⟨Text.bytes "[1, [ ]]"⟩⟩, survives (by decide +kernel)⟩

end Response

end Provision
