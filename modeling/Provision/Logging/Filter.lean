import Provision.Logging.Directive

/-! # Log filters

A filter is a list of directives between commas. Of the directives that say something about an
entry by itself the most specific one counts, and of equally specific ones the last. An entry gets
through as well if a directive lets it that is about a span around it. No entry is more verbose than
the most verbose directive. -/

namespace Provision.Logging

/-- What gets into the log. -/
structure Filter where
  directives : List Directive
  deriving DecidableEq, Repr

namespace Filter

/-- The filter that lets a level and more severe ones through. -/
def upTo (level : Level) : Filter := ⟨[{ threshold := some level }]⟩

/-- Reads a filter. Empty parts between commas do not count. -/
def parse (text : String) : Except Directive.Refusal Filter := do
  let parts := (text.toList.splitBy fun a b => a != ',' && b != ',').filter (· != [','])
  return ⟨← parts.mapM Directive.parse⟩

/-- The threshold beyond which nothing gets through. What depends on the value of a field is
    decided late, so that nothing is left out before. -/
def reach (filter : Filter) : Threshold :=
  if filter.directives.any Directive.testsValue then some .trace
  else .widest (filter.directives.map Directive.threshold)

/-- The directive that counts among those about entries. -/
def mostSpecific? (directives : List Directive) : Option Directive :=
  directives.foldl
    (fun best next => some (best.elim next fun d => if d.isMoreSpecific next then d else next))
    none

/-- Whether the events of a level, a target and fields of these names get through wherever they
    are. -/
def admitsEvent (filter : Filter) (level : Level) (target : String) (names : List String) : Bool :=
  (mostSpecific? (filter.directives.filter fun d =>
    d.concernsEntries && d.coversEvent target names)).any fun d => d.threshold.admits level

/-- Whether the spans of a level and a target get through wherever they are. -/
def admitsSpan (filter : Filter) (level : Level) (target : String) : Bool :=
  (mostSpecific? (filter.directives.filter fun d =>
    d.concernsEntries && d.covers target)).any fun d => d.threshold.admits level

/-- Directives without those that a later one replaces, which asks for the same. -/
def withoutReplaced : List Directive → List Directive
  | [] => []
  | d :: rest => if rest.any d.asksLike then withoutReplaced rest else d :: withoutReplaced rest

/-- The directives about the spans of a name and a target with these fields. -/
def forSpan (filter : Filter) (name target : String) (fields : List (String × String)) :
    List Directive :=
  (withoutReplaced (filter.directives.filter Directive.concernsSpans)).filter fun d =>
    d.coversSpan name target fields

/-- What the directives about a span let through inside of it. -/
def within (filter : Filter) (name target : String) (fields : List (String × String)) :
    Threshold :=
  .widest (((filter.forSpan name target fields).filter fun d => d.acceptsSpan fields).map
    Directive.threshold)

end Filter

end Provision.Logging
