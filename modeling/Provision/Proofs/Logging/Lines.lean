import Mathlib.Data.List.Infix
import Provision.Logging.Trace

/-! # The lines of a history

The log of a run goes through its trace entry by entry. What has been done before an event decides in which
spans the event stands: they are those that were opened before it and have not been closed. A filter that
shows the engine down to debug level leaves out none of its spans and none of its events.
-/

namespace Provision

/-- The spans that a history has opened and not closed, innermost first. -/
def openSpans : List Mark → List Span
  | [] => []
  | .began (.dispatch span _) :: past => span :: openSpans past
  | .ended (.dispatch _ _) :: past => (openSpans past).tail
  | _ :: past => openSpans past

/-- An event, and everything that was done before it, latest first. -/
structure Report where
  event : Event
  past : List Mark

/-- What a history reports, in order. -/
def reports : List Mark → List Report
  | [] => []
  | .reported event :: past => reports past ++ [⟨event, past⟩]
  | _ :: past => reports past

/-- What had been done each time that an event was reported, in order. -/
def moments (event : Event) (history : List Mark) : List (List Mark) :=
  ((reports history).filter fun report => report.event = event).map Report.past

/-- Whether an event is reported by the engine, be it by a dispatch or not. -/
def Event.ofEngine (event : Event) : Bool :=
  "gridnode_engine".toList.isPrefixOf event.target.toList

namespace Logging

/-- The trace of a history, in order. -/
def traceOf (history : List Mark) : List TraceEntry := history.reverse.filterMap TraceEntry.ofMark?

theorem traceOf_cons (mark : Mark) (past : List Mark) :
    traceOf (mark :: past) = traceOf past ++ (TraceEntry.ofMark? mark).toList := by
  rw [traceOf, traceOf, List.reverse_cons, List.filterMap_append]
  cases told : TraceEntry.ofMark? mark <;> simp [told]

/-- The line of an event inside spans, innermost first. -/
def Line.inside (event : Event) (spans : List Span) : Line where
  level := event.level
  target := event.target
  message := event.message
  fields := event.fields
  span := spans.head?
  spans := spans

/-- Whether a line is one of an event, and not one of the start or the end of a span. -/
def Line.isEvent (line : Line) : Bool := line.message != "new" && line.message != "close"

theorem Line.isEvent_inside (event : Event) (spans : List Span) : (Line.inside event spans).isEvent = true := by
  cases event <;> rfl

/-- What the engine does is shown down to debug level, wherever it is done. -/
structure Filter.ShowsEngine (filter : Filter) : Prop where
  reach : ∀ level, Threshold.admits (some .debug) level = true → filter.reach.admits level = true
  entries : ∀ level target names, "gridnode_engine".toList.isPrefixOf target.toList = true →
    Threshold.admits (some .debug) level = true →
    filter.admitsEvent level target names = true ∧ filter.admitsSpan level target = true

namespace Filter

variable {filter : Filter} {spanEvents : Bool} {around : List OpenSpan}

/-- The spans open after one more entry of a trace. -/
def after (filter : Filter) (around : List OpenSpan) : TraceEntry → List OpenSpan
  | .reported _ => around
  | .opened span => filter.openSpan around span :: around
  | .closed _ => around.tail

/-- The lines of one entry of a trace. -/
def linesOf (filter : Filter) (spanEvents : Bool) (around : List OpenSpan) (entry : TraceEntry) : List Line :=
  lines filter spanEvents around [entry]

theorem lines_cons (entry : TraceEntry) (entries : List TraceEntry) :
    lines filter spanEvents around (entry :: entries) =
      filter.linesOf spanEvents around entry ++ lines filter spanEvents (filter.after around entry) entries := by
  cases entry with
  | reported event => simp only [linesOf, lines, after]; split <;> rfl
  | opened span => simp only [linesOf, lines, after]; split <;> rfl
  | closed span =>
      cases around with
      | nil => rfl
      | cons inner around => simp only [linesOf, lines, after, List.tail_cons]; split <;> rfl

theorem lines_append (first later : List TraceEntry) :
    lines filter spanEvents around (first ++ later) =
      lines filter spanEvents around first ++ lines filter spanEvents (first.foldl filter.after around) later := by
  induction first generalizing around with
  | nil => cases around <;> rfl
  | cons entry first ih => rw [List.cons_append, lines_cons, ih, lines_cons, List.append_assoc, List.foldl_cons]

/-- The start and the end of a span are no events. -/
theorem filter_linesOf (entry : TraceEntry) : (filter.linesOf spanEvents around entry).filter Line.isEvent =
    match entry with
    | .reported event => if filter.logsEvent around event then [Line.ofEvent event around] else []
    | .opened _ | .closed _ => [] := by
  cases entry with
  | reported event =>
      have event' : (Line.ofEvent event around).isEvent = true := Line.isEvent_inside event _
      simp only [linesOf, lines]
      split
      · simp [event']
      · rfl
  | opened span =>
      have start : (Line.ofSpan "new" span around).isEvent = false := rfl
      simp only [linesOf, lines]
      split
      · simp [start]
      · rfl
  | closed span =>
      cases around with
      | nil => rfl
      | cons inner around =>
          have stop : (Line.ofSpan "close" inner.span around).isEvent = false := rfl
          simp only [linesOf, lines]
          split
          · simp [stop]
          · rfl

/-- The spans open after a history. -/
def spansAfter (filter : Filter) (past : List Mark) : List OpenSpan := (traceOf past).foldl filter.after []

theorem spansAfter_cons (mark : Mark) (past : List Mark) : filter.spansAfter (mark :: past) =
    (TraceEntry.ofMark? mark).toList.foldl filter.after (filter.spansAfter past) := by
  rw [spansAfter, traceOf_cons, List.foldl_append]
  rfl

/-- Whether an event gets into the log after what was done before it. -/
def shows (filter : Filter) (report : Report) : Bool :=
  filter.logsEvent (filter.spansAfter report.past) report.event

/-- The lines of events are those of what a history reports, each inside the logged spans of its moment. -/
theorem lines_traceOf (history : List Mark) :
    (lines filter spanEvents [] (traceOf history)).filter Line.isEvent =
      ((reports history).filter filter.shows).map fun report =>
        Line.inside report.event (loggedSpans (filter.spansAfter report.past)) := by
  induction history with
  | nil => rfl
  | cons mark past ih =>
      rw [traceOf_cons, lines_append, List.filter_append, ih]
      cases told : TraceEntry.ofMark? mark with
      | none =>
          have silent : reports (mark :: past) = reports past := by
            cases mark with
            | reported => cases told
            | began | ended | stored | noted => rfl
          simp [silent, lines]
      | some entry =>
          rw [Option.toList_some, ← linesOf, filter_linesOf]
          cases mark with
          | reported event =>
              cases told
              rw [reports, List.filter_append, List.map_append, List.append_cancel_left_eq]
              change (if filter.shows ⟨event, past⟩ then _ else _) = _
              cases shown : filter.shows ⟨event, past⟩ <;> simp [shown, Line.ofEvent, Line.inside, spansAfter]
          | began frame | ended frame =>
              cases frame with
              | dispatch =>
                  cases told
                  simp [reports]
              | handler | dependency | scope => cases told
          | stored | noted => cases told

namespace ShowsEngine

variable (shown : filter.ShowsEngine)

include shown

theorem isLogged_openSpan (span : Span) : (filter.openSpan around span).isLogged = true := by
  have entry := (shown.entries Span.level Event.dispatchTarget [] (by decide) (by decide)).2
  simp only [openSpan, Bool.and_eq_true, Bool.or_eq_true]
  exact ⟨shown.reach _ (by decide), .inl (.inr entry)⟩

/-- All spans that are open get into the log. -/
theorem loggedSpans_spansAfter (past : List Mark) : loggedSpans (filter.spansAfter past) = openSpans past := by
  have both : (∀ outer ∈ filter.spansAfter past, outer.isLogged = true) ∧
      (filter.spansAfter past).map OpenSpan.span = openSpans past := by
    induction past with
    | nil => exact ⟨nofun, rfl⟩
    | cons mark past ih =>
        obtain ⟨logged, spans⟩ := ih
        rw [spansAfter_cons]
        cases mark with
        | began frame =>
            cases frame with
            | dispatch span mode =>
                exact ⟨List.forall_mem_cons.mpr ⟨shown.isLogged_openSpan span, logged⟩, congrArg (span :: ·) spans⟩
            | handler | dependency | scope => exact ⟨logged, spans⟩
        | ended frame =>
            cases frame with
            | dispatch span mode =>
                refine ⟨fun outer member => logged outer (List.mem_of_mem_tail member), ?_⟩
                exact List.map_tail.trans (congrArg List.tail spans)
            | handler | dependency | scope => exact ⟨logged, spans⟩
        | stored | reported | noted => exact ⟨logged, spans⟩
  rw [loggedSpans, List.filter_eq_self.mpr both.1, both.2]

/-- Whatever the engine reports gets into the log. -/
theorem shows_of_engine {report : Report} (engine : report.event.ofEngine = true) : filter.shows report = true := by
  have debug : Threshold.admits (some .debug) report.event.level = true := by
    cases report.event <;> rfl
  simp only [Filter.shows, logsEvent, Bool.and_eq_true, Bool.or_eq_true]
  exact ⟨shown.reach _ debug, .inl (shown.entries _ _ _ engine debug).1⟩

end ShowsEngine

/-- A single directive down to debug level or further shows the engine if it is about the engine, be it about
    more than that. -/
theorem showsEngine_single {target : List Char} {most : Level}
    (covers : target.isPrefixOf "gridnode_engine".toList = true)
    (debug : Threshold.admits (some most) .debug = true) : ShowsEngine ⟨[{ target, threshold := some most }]⟩ := by
  have admits : ∀ level, Threshold.admits (some .debug) level = true →
      Threshold.admits (some most) level = true := by
    intro level low
    simp only [Threshold.admits, Option.any_some, decide_eq_true_eq] at debug low ⊢
    exact low.trans debug
  refine ⟨fun level low => ?_, fun level other names engine low => ?_⟩
  · have widest : Threshold.widest [some most] = some most := rfl
    simpa [reach, Directive.testsValue, widest] using admits level low
  · have covered : target.isPrefixOf other.toList = true := by
      rw [List.isPrefixOf_iff_prefix] at covers engine ⊢
      exact covers.trans engine
    have both : ({ target, threshold := some most } : Directive).concernsEntries = true := rfl
    have event : ({ target, threshold := some most } : Directive).coversEvent other names = true := by
      simpa [Directive.coversEvent, Directive.covers] using covered
    have span : ({ target, threshold := some most } : Directive).covers other = true := covered
    simp [admitsEvent, admitsSpan, mostSpecific?, both, event, span, admits level low]

end Filter

/-- What gets told in a setup: that it took effect, and what a history reports. -/
def Config.reports (config : Config) (history : List Mark) : List Report :=
  ⟨.loggingReady config.level.name config.format.inspect, []⟩ :: Provision.reports history

/-- Under a filter that shows the engine the events of a log stand in the spans that are open at their moment. -/
theorem Filter.ShowsEngine.log {filter : Filter} (shown : filter.ShowsEngine) (config : Config)
    (history : List Mark) : (config.log filter (traceOf history)).filter Line.isEvent =
      ((config.reports history).filter filter.shows).map fun report =>
        Line.inside report.event (openSpans report.past) := by
  rw [Config.log, Filter.lines_cons, List.filter_append, Filter.filter_linesOf]
  have rest : (lines filter config.spanEvents [] (traceOf history)).filter Line.isEvent = _ :=
    Filter.lines_traceOf history
  simp only [shown.loggedSpans_spansAfter] at rest
  rw [Filter.after, rest, Config.reports, List.filter_cons]
  change (if filter.shows ⟨_, []⟩ then _ else _) ++ _ = _
  split <;> rfl

/-- The lines of an event of the engine that is known by its wording are as many as the reports of it, in the
    same order. -/
theorem Filter.ShowsEngine.log_of_message {filter : Filter} (shown : filter.ShowsEngine) (config : Config)
    (history : List Mark) {event : Event} (engine : event.ofEngine = true)
    (only : ∀ other : Event, other.message = event.message → other = event) :
    (config.log filter (traceOf history)).filter (fun line => line.message = event.message) =
      (moments event history).map fun past => Line.inside event (openSpans past) := by
  have events : (config.log filter (traceOf history)).filter (fun line => line.message = event.message) =
      ((config.log filter (traceOf history)).filter Line.isEvent).filter fun line =>
        line.message = event.message := by
    rw [List.filter_filter]
    refine List.filter_congr fun line _ => ?_
    by_cases same : line.message = event.message
    · have isEvent : line.isEvent = true := by
        rw [Line.isEvent, same]
        exact Line.isEvent_inside event []
      simp [same, isEvent]
    · simp [same]
  have chosen : ((config.reports history).filter filter.shows).filter (fun report =>
      report.event.message = event.message) = (Provision.reports history).filter fun report =>
        report.event = event := by
    have first : (Event.loggingReady config.level.name config.format.inspect).message ≠ event.message := by
      intro same
      have core : (Event.loggingReady config.level.name config.format.inspect).ofEngine = false := by
        simp only [Event.ofEngine, Event.target]
        decide
      rw [only _ same, engine] at core
      cases core
    rw [List.filter_filter, Config.reports, List.filter_cons_of_neg (by simp [first])]
    refine List.filter_congr fun report _ => ?_
    by_cases same : report.event.message = event.message
    · have found := only _ same
      have shows' := shown.shows_of_engine (found ▸ engine)
      simp [found, shows']
    · have other : report.event ≠ event := fun found => same (congrArg Event.message found)
      simp [same, other]
  rw [events, shown.log, List.filter_map]
  change (((config.reports history).filter filter.shows).filter fun report =>
    report.event.message = event.message).map _ = _
  rw [chosen, moments, List.map_map]
  refine List.map_congr_left fun report member => ?_
  have found : report.event = event := by simpa using (List.mem_filter.mp member).2
  rw [Function.comp_apply, found]

end Logging

end Provision
