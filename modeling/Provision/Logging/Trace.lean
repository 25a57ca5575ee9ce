import Provision.Logging.Config
import Provision.Node

/-! # Traces and log lines

The trace of a run are the spans it opened and closed and the events it reported. A log has a line
for each of those events that its filter lets through, under the spans that it lets through, and
on demand for the start and the end of each such span. -/

namespace Provision

namespace Logging

/-- One entry of a trace. -/
inductive TraceEntry where
  | opened (span : Span)
  | closed (span : Span)
  | reported (event : Event)
  deriving DecidableEq, Repr

/-- The entry of a trace that a mark of a history stands for. -/
def TraceEntry.ofMark? : Mark → Option TraceEntry
  | .began (.dispatch span _) => some (opened span)
  | .ended (.dispatch span _) => some (closed span)
  | .reported event => some (reported event)
  | _ => none

/-- A span under way. -/
structure OpenSpan where
  span : Span
  /-- Whether it gets into the log. -/
  isLogged : Bool
  /-- What the directives about it let through inside of it. -/
  threshold : Threshold := none
  deriving DecidableEq, Repr

/-- A line of a log. -/
structure Line where
  level : Level
  target : String
  message : String
  fields : List (String × FieldValue) := []
  /-- The innermost span. -/
  span : Option Span
  /-- The spans around, innermost first. -/
  spans : List Span
  deriving DecidableEq, Repr

namespace Filter

/-- Whether the directives about one of these spans let entries of a level through. -/
def admitsWithin (around : List OpenSpan) (level : Level) : Bool :=
  around.any fun outer => outer.threshold.admits level

/-- Whether an event gets through inside these spans. -/
def logsEvent (filter : Filter) (around : List OpenSpan) (event : Event) : Bool :=
  let names := "message" :: event.fields.map Prod.fst
  filter.reach.admits event.level &&
    (filter.admitsEvent event.level event.target names || admitsWithin around event.level)

/-- A span that starts inside these spans. A directive about it lets it through itself. -/
def openSpan (filter : Filter) (around : List OpenSpan) (span : Span) : OpenSpan :=
  let concerned := !(filter.forSpan Span.name Event.dispatchTarget span.fields).isEmpty
  let isLogged := filter.reach.admits Span.level &&
    (concerned || filter.admitsSpan Span.level Event.dispatchTarget ||
      admitsWithin around Span.level)
  let threshold :=
    if isLogged then filter.within Span.name Event.dispatchTarget span.fields else none
  { span, isLogged, threshold }

end Filter

/-- The spans among the open ones that get into the log, innermost first. -/
def loggedSpans (around : List OpenSpan) : List Span :=
  (around.filter (·.isLogged)).map OpenSpan.span

/-- The line for an event inside spans. -/
def Line.ofEvent (event : Event) (around : List OpenSpan) : Line where
  level := event.level
  target := event.target
  message := event.message
  fields := event.fields
  span := (loggedSpans around).head?
  spans := loggedSpans around

/-- The line for the start or the end of a span inside others. -/
def Line.ofSpan (message : String) (span : Span) (around : List OpenSpan) : Line where
  level := Span.level
  target := Event.dispatchTarget
  message := message
  span := some span
  spans := loggedSpans around

/-- The log lines of a trace, of which the spans in the second place are open at its start. -/
def lines (filter : Filter) (spanEvents : Bool) :
    List OpenSpan → List TraceEntry → List Line
  | _, [] => []
  | around, .reported event :: entries =>
    let line := Line.ofEvent event around
    let rest := lines filter spanEvents around entries
    if filter.logsEvent around event then line :: rest else rest
  | around, .opened span :: entries =>
    let inner := filter.openSpan around span
    let rest := lines filter spanEvents (inner :: around) entries
    if spanEvents && inner.isLogged then Line.ofSpan "new" span around :: rest else rest
  | [], .closed _ :: entries => lines filter spanEvents [] entries
  | inner :: around, .closed _ :: entries =>
    let rest := lines filter spanEvents around entries
    if spanEvents && inner.isLogged then Line.ofSpan "close" inner.span around :: rest else rest

/-- The log of a setup: the line that says it took effect, and those of a trace. -/
def Config.log (config : Config) (filter : Filter) (trace : List TraceEntry) : List Line :=
  lines filter config.spanEvents [] <|
    .reported (.loggingReady config.level.name config.format.inspect) :: trace

end Logging

end Provision
