import Provision.Error
import Provision.Logging.Level
import Provision.Text.Inspect

/-! # Events

What the engine and the store report while they work. An event knows its severity, the part of
the system that reports it, its wording and its fields. A dispatch is a span: everything reported
between its start and its end belongs to it. -/

namespace Provision

open Logging (Level)

/-- The value of a field. -/
inductive FieldValue where
  | text (value : String)
  | count (value : Nat)
  deriving DecidableEq, Repr

/-- What is reported. -/
inductive Event where
  /-- Logging was set up. -/
  | loggingReady (level format : String)
  /-- An engine was assembled from these kinds. -/
  | engineReady (kinds : List String)
  /-- A creating action was refused. -/
  | objectExists
  /-- An action was refused for want of its object. -/
  | objectMissing
  /-- An action was refused because the object is of another kind. -/
  | otherKind (found : String)
  /-- A delete was refused. -/
  | deleteRefused
  /-- A handler failed. -/
  | actionFailed (error : ActionError)
  /-- A failed create gave up what it had reserved. -/
  | reservationsReleased (count : Nat)
  /-- The record of a deleted object is gone. -/
  | objectDeleted
  /-- A reservation was refused because the object is taken. -/
  | alreadyReserved (master slave : ObjectKey)
  /-- A reservation was made for good. -/
  | dependencyAdded (master slave : ObjectKey)
  /-- A reservation could not be withdrawn. -/
  | withdrawalFailed (master slave : ObjectKey) (error : String)
  /-- A reservation was given up. -/
  | dependencyRemoved (master slave : ObjectKey)
  /-- The store dropped what a deleted object relied on. -/
  | dependenciesReleased (master : ObjectKey) (count : Nat)
  deriving DecidableEq, Repr

namespace Event

/-- The severity of an event. -/
def level : Event → Level
  | withdrawalFailed .. => .error
  | deleteRefused => .warn
  | loggingReady .. | engineReady _ | objectDeleted => .info
  | _ => .debug

/-- The part of the system that reports dispatches. -/
def dispatchTarget : String := "gridnode_engine::resource"

/-- The part of the system that reports an event. -/
def target : Event → String
  | loggingReady .. => "gridnode_core"
  | engineReady _ | alreadyReserved .. | dependencyAdded .. | withdrawalFailed ..
  | dependencyRemoved .. => "gridnode_engine::engine"
  | dependenciesReleased .. => "gridnode_store"
  | _ => dispatchTarget

/-- The wording of an event. -/
def message : Event → String
  | loggingReady .. => "tracing initialized"
  | engineReady _ => "engine ready"
  | objectExists => "rejected: object exists"
  | objectMissing => "rejected: object does not exist"
  | otherKind _ => "rejected: object has another type"
  | deleteRefused => "rejected delete: object is a dependency"
  | actionFailed _ => "action failed"
  | reservationsReleased _ => "reservations of failed create released"
  | objectDeleted => "object deleted"
  | alreadyReserved .. => "exclusive dependency already reserved"
  | dependencyAdded .. => "dependency added"
  | withdrawalFailed .. => "failed to withdraw dependency"
  | dependencyRemoved .. => "dependency removed"
  | dependenciesReleased .. => "dependencies released"

/-- The fields of an event about an edge. -/
def edgeFields (master slave : ObjectKey) : List (String × FieldValue) :=
  [("master", .text master.text), ("slave", .text slave.text)]

/-- The fields of an event. -/
def fields : Event → List (String × FieldValue)
  | loggingReady level format => [("level", .text level), ("format", .text format)]
  | engineReady kinds => [("resources", .text (Text.inspectList kinds))]
  | otherKind found => [("found", .text found)]
  | actionFailed error => [("error", .text error.message)]
  | reservationsReleased count => [("released", .count count)]
  | alreadyReserved master slave | dependencyAdded master slave
  | dependencyRemoved master slave => edgeFields master slave
  | withdrawalFailed master slave error => edgeFields master slave ++ [("error", .text error)]
  | dependenciesReleased master count =>
    [("master", .text master.text), ("released", .count count)]
  | objectExists | objectMissing | deleteRefused | objectDeleted => []

end Event

/-- The span of one dispatch. -/
structure Span where
  resource : String
  action : String
  object : ObjectKey
  deriving DecidableEq, Repr

namespace Span

/-- The name of the span. -/
def name : String := "dispatch"

/-- The severity of the span. -/
def level : Level := .debug

/-- The fields of a span. -/
def fields (span : Span) : List (String × String) :=
  [("resource", span.resource), ("action", span.action), ("object", span.object.text)]

end Span

end Provision
