import Provision.Pattern.Basic

/-! # Automata of patterns

A pattern becomes an automaton whose states are numbered. While a text is read once, the states that
the matches under way have reached are kept in a list, the preferred match first, and no state is
reached twice at one place: of two matches in one state only the preferred goes on. So a round of a
repetition that takes no character leads to states that were reached already, and ends there.

A pattern accepts a text if the first match of all reaches the end of it. A match that starts
farther left comes before those that start later. -/

namespace Provision

/-- A state of an automaton. -/
inductive State where
  /-- The match is complete. -/
  | finish
  /-- A character of a set leads to a state. -/
  | take (set : CharSet) (next : Nat)
  /-- A state follows if an assertion holds. -/
  | check (assertion : Assertion) (next : Nat)
  /-- Either of two states follows, preferably the first. -/
  | fork (first second : Nat)
  deriving DecidableEq, Repr

namespace State

/-- Whether the match is complete. -/
def isFinish : State → Bool
  | finish => true
  | _ => false

/-- The states that follow without a character, the preferred first. -/
def following (holds : Assertion → Bool) : State → List Nat
  | fork first second => [first, second]
  | check assertion next => if holds assertion then [next] else []
  | _ => []

/-- The state that follows a character. -/
def after? (c : Char) : State → Option Nat
  | take set next => if set.contains c then some next else none
  | _ => none

/-- Whether an assertion is checked that holds of a place only thanks to what stands behind it. -/
def opensAt (place : Place) : State → Bool
  | check assertion _ => assertion.holds place && !assertion.holdsAfter place.before
  | _ => false

end State

/-- An automaton: its states, and the one in which matches start. -/
structure Automaton where
  states : Array State
  start : Nat
  deriving Repr

namespace Automaton

/-- Adds a state in which matches start. -/
def starting (automaton : Automaton) (state : State) : Automaton :=
  ⟨automaton.states.push state, automaton.states.size⟩

/-- The automaton that matches a pattern and goes on like another. Behind a round of a repetition
    comes the state that goes on to another round or leaves. A repetition whose rounds may be empty
    has one such state in front as well, so that its first round is preferred or not like the
    others. -/
def before : Pattern → Automaton → Automaton
  | .empty, rest => rest
  | .literal text, rest =>
    text.foldr (fun c behind => behind.starting (.take (.single c) behind.start)) rest
  | .one set _, rest => rest.starting (.take set rest.start)
  | .here assertion, rest => rest.starting (.check assertion rest.start)
  | .group _ inner, rest => before inner rest
  | .sequence first second, rest => before first (before second rest)
  | .choice first second, rest =>
    let second := before second rest
    let first := before first { second with start := rest.start }
    first.starting (.fork first.start second.start)
  | .repeated rounds greedy round, rest =>
    let goOn (start : Nat) : State :=
      if greedy then .fork start rest.start else .fork rest.start start
    if rounds = .atMostOne then
      let once := before round rest
      once.starting (goOn once.start)
    else
      let behind := rest.states.size
      let unclosed := before round (rest.starting .finish)
      let loop :=
        { unclosed with states := unclosed.states.setIfInBounds behind (goOn unclosed.start) }
      if rounds = .atLeastOne then loop
      else if round.alwaysTakes then { loop with start := behind }
      else loop.starting (goOn loop.start)

/-- The automaton that matches a pattern. -/
def ofPattern (pattern : Pattern) : Automaton := before pattern ⟨#[.finish], 0⟩

/-- The states that have been reached at a place. -/
structure Reached where
  /-- Which ones they are. -/
  marks : Array Bool
  /-- The same ones, the last one first. -/
  states : List Nat := []
  deriving Repr

/-- Reaches a state. -/
def Reached.add (state : Nat) : Reached → Reached
  | ⟨marks, states⟩ => ⟨marks.setIfInBounds state true, state :: states⟩

/-- Reaches states, in order, and before each next one the states that follow without a character.
    The second argument bounds the steps taken. -/
def reach (automaton : Automaton) (holds : Assertion → Bool) :
    Nat → List Nat → Reached → Reached
  | 0, _, reached => reached
  | _, [], reached => reached
  | steps + 1, state :: todo, reached =>
    if reached.marks.getD state true then automaton.reach holds steps todo reached
    else
      let following := (automaton.states[state]?.map (State.following holds)).getD []
      automaton.reach holds steps (following ++ todo) (reached.add state)

/-- The states reached from states, in order. Every state is gone through once and leads to two at
    most. -/
def closure (automaton : Automaton) (holds : Assertion → Bool) (states : List Nat) : List Nat :=
  let size := automaton.states.size
  let steps := states.length + 2 * size
  (automaton.reach holds steps states ⟨Array.replicate size false, []⟩).states.reverse

/-- The states reached at a place from states. They are found while the character behind is not
    known, and are gone through again if that lets an assertion hold. -/
def reachedAt (automaton : Automaton) (place : Place) (states : List Nat) : List State :=
  let waiting := automaton.closure (Assertion.holdsAfter place.before) states
  let opens := waiting.any fun state => automaton.states[state]?.any (State.opensAt place)
  let states := if opens then automaton.closure (Assertion.holds place) waiting else waiting
  states.filterMap (automaton.states[·]?)

/-- Whether a match that starts inside a character is complete there. In there are places if the
    character has more than one byte, and a byte of it, which is part of no word, stands before and
    behind each of them. -/
def finishesInside (automaton : Automaton) (c : Char) : Bool :=
  1 < c.utf8Size && (automaton.reachedAt ⟨some c, some c⟩ [automaton.start]).any State.isFinish

/-- Whether the first match reaches the end of the text. The arguments are the character before the
    place, the states that the matches under way go on from, whether a match may still start, and
    the rest of the text. A complete match rules out all that come after it. -/
def reachesEnd (automaton : Automaton) : Option Char → List Nat → Bool → List Char → Bool
  | before, underWay, mayStart, rest =>
    let starting := if mayStart then [automaton.start] else []
    let reached := automaton.reachedAt ⟨before, rest.head?⟩ (underWay ++ starting)
    match rest with
    | [] => reached.any State.isFinish
    | c :: rest =>
      let ahead := reached.takeWhile fun state => !state.isFinish
      let mayStart :=
        mayStart && ahead.length == reached.length && !automaton.finishesInside c
      automaton.reachesEnd (some c) (ahead.filterMap (State.after? c)) mayStart rest

end Automaton

/-- Whether a pattern accepts a text. -/
def Pattern.accepts (pattern : Pattern) (text : String) : Bool :=
  (Automaton.ofPattern pattern).reachesEnd none [] true text.toList

end Provision
