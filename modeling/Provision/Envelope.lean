import Provision.Json.Shape
import Provision.Text.Inspect

/-! # Requests and responses

The transport and the engine agree on two shapes only. Payloads are kept exactly as they were
written; what is in them is a matter of the action. -/

namespace Provision

open Json

/-- A JSON text without blanks around it, kept as it was written. -/
structure RawJson where
  text : Bytes
  deriving DecidableEq, Repr

namespace RawJson

/-- The text `null`. -/
def null : RawJson := ⟨Text.bytes "null"⟩

/-- The JSON text that a whole text is, without the blanks around it; a refusal is given in
    words. -/
def ofBytes (text : Bytes) : Except String RawJson :=
  match (Form.plain .raw).decodeText text with
  | .ok (.raw text) => .ok ⟨text⟩
  | .ok value => .ok ⟨value.print⟩
  | .error detail => .error detail

/-- The JSON text that a whole text is, if it is one. -/
def ofBytes? (text : Bytes) : Option RawJson := (ofBytes text).toOption

/-- The compact form of a value. -/
def ofValue (value : Value) : RawJson := ⟨value.print⟩

/-- Decodes the text as a form; a refusal is given in words. -/
def decode (raw : RawJson) (form : Form) : Except String Value := form.decodeText raw.text

/-- The text as characters. -/
def toString (raw : RawJson) : String := (Text.ofBytes? raw.text).getD ""

end RawJson

/-- A call against one object of a workload kind. -/
structure Request where
  /-- Name of the action to run. -/
  action : String
  /-- Name of the target object. -/
  object : String
  /-- Input of the action. -/
  payload : RawJson := .null
  deriving DecidableEq, Repr

namespace Request

/-- A request whose payload is a value. -/
def ofInput (action object : String) (input : Value) : Request :=
  ⟨action, object, .ofValue input⟩

/-- The fields of a request; the payload may be left out and is null then. -/
def form : Form :=
  .struct "ResourceRequest"
    [⟨"action", .string, none⟩, ⟨"resource", .string, none⟩,
      ⟨"payload", .raw, some (.raw (Text.bytes "null"))⟩]

/-- A request as a value. -/
def toValue (request : Request) : Value :=
  .object [("action", .string request.action), ("resource", .string request.object),
    ("payload", .raw request.payload.text)]

/-- The request that a decoded value stands for. -/
def ofValue? : Value → Option Request
  | .object [("action", .string action), ("resource", .string object), ("payload", .raw text)] =>
    some ⟨action, object, ⟨text⟩⟩
  | _ => none

/-- The wire form of a request. -/
def encode (request : Request) : Bytes := request.toValue.print

/-- Reads a request from its wire form. -/
def decode? (wire : Bytes) : Option Request := (form.decode? wire).bind ofValue?

/-- A request as diagnostics show it. -/
def inspect (request : Request) : String :=
  Text.inspectRecord "ResourceRequest"
    [("action", Text.inspect request.action), ("resource_id", Text.inspect request.object),
      ("payload", "RawValue(" ++ request.payload.toString ++ ")")]

end Request

/-- Outcome of a dispatched call. -/
structure Response where
  /-- Wording of the handler's failure, empty if it succeeded. -/
  error : String := ""
  /-- Output of the action. -/
  payload : Option RawJson := none
  deriving DecidableEq, Repr

namespace Response

/-- Whether the action succeeded. -/
def isSuccess (response : Response) : Bool := response.error.isEmpty

/-- Decodes the output with a decoder; a missing one is null. -/
def outputAs {α : Type} (response : Response) (decoder : Bytes → Option α) : Option α :=
  decoder (response.payload.getD .null).text

/-- Decodes the output as a form. -/
def output? (response : Response) (form : Form) : Option Value := response.outputAs form.decode?

/-- The fields of a response; both may be left out. -/
def form : Form :=
  .struct "ResourceResponse"
    [⟨"error", .string, some (.string "")⟩, ⟨"payload", .option .raw, some .null⟩]

/-- A response as a value. -/
def toValue (response : Response) : Value :=
  .object [("error", .string response.error),
    ("payload", response.payload.elim .null fun raw => .raw raw.text)]

/-- The response that a decoded value stands for. -/
def ofValue? : Value → Option Response
  | .object [("error", .string error), ("payload", .null)] => some ⟨error, none⟩
  | .object [("error", .string error), ("payload", .raw text)] => some ⟨error, some ⟨text⟩⟩
  | _ => none

/-- The wire form of a response. -/
def encode (response : Response) : Bytes := response.toValue.print

/-- Reads a response from its wire form. -/
def decode? (wire : Bytes) : Option Response := (form.decode? wire).bind ofValue?

end Response

end Provision
