import Provision.Object.Key

/-! # Causes of failure

Each layer has its own causes: the store, the engine, and the handler of an action. A cause of an
inner layer is a cause of the outer one. The wording of a cause is in one function per type. -/

namespace Provision

/-- Why a store operation failed. -/
inductive StoreError where
  /-- Nothing is stored under the key. -/
  | notFound (key : ObjectKey)
  /-- The storage itself failed. -/
  | backend (reason : String)
  deriving DecidableEq, Repr

/-- The wording of a store failure. -/
def StoreError.message : StoreError → String
  | .notFound key => "record not found: " ++ key.text
  | .backend reason => "storage backend error: " ++ reason

/-- Why the engine refused or could not finish an operation. -/
inductive EngineError where
  /-- The resource has no action of this name. -/
  | actionNotFound (name : String)
  /-- No resource of this kind is registered. -/
  | resourceNotFound (kind : String)
  /-- A creating action targeted an object that exists. -/
  | objectExists (key : ObjectKey)
  /-- Any other action targeted an object that does not exist. -/
  | objectDoesNotExist (key : ObjectKey)
  /-- The object is a dependency of another one. -/
  | objectInUse (key : ObjectKey)
  /-- The object's record belongs to another kind. -/
  | objectInvalidType (key : ObjectKey) (expected found : String)
  /-- The dependency would make an object depend on itself. -/
  | dependencyCycle (master slave : ObjectKey)
  /-- The stored state is not one of its kind; `detail` is the decoder's refusal. -/
  | decode (key : ObjectKey) (kind detail : String)
  /-- The state has no encoding; `detail` is the encoder's refusal. -/
  | encode (kind detail : String)
  /-- The store failed. -/
  | store (cause : StoreError)
  deriving DecidableEq, Repr

/-- The wording of an engine failure. -/
def EngineError.message : EngineError → String
  | .actionNotFound name => "action not found: " ++ name
  | .resourceNotFound kind => "resource type not found: " ++ kind
  | .objectExists key => "object already exists: " ++ key.text
  | .objectDoesNotExist key => "object does not exist: " ++ key.text
  | .objectInUse key => "object is in use: " ++ key.text
  | .objectInvalidType key expected found =>
    "object " ++ key.text ++ " has type '" ++ found ++ "', expected '" ++ expected ++ "'"
  | .dependencyCycle master slave =>
    "dependency of " ++ master.text ++ " on " ++ slave.text ++ " would create a cycle"
  | .decode key kind detail =>
    "failed to decode resource " ++ key.text ++ " as type " ++ kind ++ ": " ++ detail
  | .encode kind detail => "failed to encode resource of type " ++ kind ++ ": " ++ detail
  | .store cause => cause.message

/-- Whether the failure stems from another one that is kept apart from its own wording. -/
def EngineError.hasSource : EngineError → Bool
  | .decode .. | .encode .. => true
  | _ => false

/-- Why the handler of an action failed. -/
inductive ActionError where
  /-- The payload does not have the type that the action takes; `detail` is the decoder's
      refusal. -/
  | invalidPayload (detail : String)
  /-- The output of the action has no encoding; `detail` is the encoder's refusal. -/
  | invalidOutput (detail : String)
  /-- The workload operation failed, in the handler's own words. -/
  | failed (reason : String)
  /-- An engine operation made by the handler failed. -/
  | engine (cause : EngineError)
  deriving DecidableEq, Repr

/-- The wording of a handler's failure. -/
def ActionError.message : ActionError → String
  | .invalidPayload detail => "invalid payload: " ++ detail
  | .invalidOutput detail => "invalid output: " ++ detail
  | .failed reason => reason
  | .engine cause => cause.message

instance : Coe StoreError EngineError := ⟨.store⟩
instance : Coe EngineError ActionError := ⟨.engine⟩

end Provision
