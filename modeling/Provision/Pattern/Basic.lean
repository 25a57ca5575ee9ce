import Provision.Pattern.CharSet

/-! # Patterns

A pattern describes texts, and puts the matches that a text has in order: the first of two choices
comes before the second, and a repetition prefers as many or as few rounds as it says.

Patterns are put together by functions that join what belongs together, so that literals, sequences
and choices are as long as they can be and choices share how they start. What is shared is then
matched before the choice is made, which can bring another match to the front. -/

namespace Provision

/-- What stands before and behind a place in a text. -/
structure Place where
  before : Option Char
  behind : Option Char
  deriving DecidableEq, Repr

/-- What a place has to be. -/
inductive Assertion where
  | textStart
  | textEnd
  | lineStart
  | lineEnd
  /-- The start of a line if a carriage return, a line feed or the first followed by the second
      ends one. -/
  | anyLineStart
  /-- The end of such a line. -/
  | anyLineEnd
  /-- A word starts or ends. -/
  | wordEdge
  /-- No word starts or ends. -/
  | noWordEdge
  | wordStart
  | wordEnd
  deriving DecidableEq, Repr

namespace Assertion

/-- Whether an assertion holds of a place. -/
def holds (place : Place) : Assertion → Bool
  | textStart => place.before.isNone
  | textEnd => place.behind.isNone
  | lineStart => place.before.all (· == '\n')
  | lineEnd => place.behind.all (· == '\n')
  | anyLineStart =>
    place.before.all fun c => c == '\n' || c == '\r' && place.behind != some '\n'
  | anyLineEnd =>
    place.behind.all fun c => c == '\r' || c == '\n' && place.before != some '\r'
  | wordEdge => place.before.any CharSet.isWord != place.behind.any CharSet.isWord
  | noWordEdge => place.before.any CharSet.isWord == place.behind.any CharSet.isWord
  | wordStart => !place.before.any CharSet.isWord && place.behind.any CharSet.isWord
  | wordEnd => place.before.any CharSet.isWord && !place.behind.any CharSet.isWord

/-- Whether what stands before a place is enough for an assertion to hold of it. -/
def holdsAfter (before : Option Char) : Assertion → Bool
  | textStart => before.isNone
  | lineStart | anyLineStart => before.all (· == '\n')
  | _ => false

end Assertion

/-- How many rounds a repetition may have. -/
inductive Rounds where
  | atMostOne
  | anyNumber
  | atLeastOne
  deriving DecidableEq, Repr

/-- A pattern. -/
inductive Pattern where
  /-- Nothing. -/
  | empty
  /-- Certain characters. -/
  | literal (text : List Char)
  /-- One character of a set, which was written under flags that admit any character or ASCII
      alone. -/
  | one (set : CharSet) (unicode : Bool)
  /-- Nothing, at a certain place. -/
  | here (assertion : Assertion)
  /-- What a group in parentheses describes. No two groups have one number. -/
  | group (number : Nat) (inner : Pattern)
  /-- One pattern and then another. The first is neither a sequence nor nothing. -/
  | sequence (first rest : Pattern)
  /-- One of two patterns, preferably the first, which is not a choice. -/
  | choice (first rest : Pattern)
  /-- A number of rounds, preferably many if it is greedy and else few. -/
  | repeated (rounds : Rounds) (greedy : Bool) (round : Pattern)
  deriving DecidableEq, Repr

namespace Pattern

/-- One character of a set. -/
def ofSet (set : CharSet) (unicode : Bool) : Pattern :=
  match set.ranges with
  | [] => one .nothing false
  | [(low, high)] => if low = high then literal [low] else one set unicode
  | _ => one set unicode

/-- What a pattern consists of, in the order of the text. -/
def parts : Pattern → List Pattern
  | empty => []
  | sequence first rest => first :: rest.parts
  | pattern => [pattern]

/-- Patterns one after the other. -/
def chain : List Pattern → Pattern
  | [] => empty
  | [pattern] => pattern
  | pattern :: rest => sequence pattern (chain rest)

/-- Puts a part before others, and joins literals. -/
def consPart : Pattern → List Pattern → List Pattern
  | literal text, literal behind :: rest => literal (text ++ behind) :: rest
  | part, rest => part :: rest

/-- Patterns one after the other, of which the parts are joined. -/
def inOrder (patterns : List Pattern) : Pattern :=
  chain ((patterns.flatMap parts).foldr consPart [])

/-- What a pattern lets choose from, the preferred first. -/
def alternatives : Pattern → List Pattern
  | choice first rest => first :: rest.alternatives
  | pattern => [pattern]

/-- One of several patterns, the preferred first. -/
def chooseFrom : List Pattern → Pattern
  | [] => one .nothing false
  | [pattern] => pattern
  | pattern :: rest => choice pattern (chooseFrom rest)

/-- The character of a literal of one, as a set. -/
def character? : Pattern → Option CharSet
  | literal [c] => some (.single c)
  | _ => none

/-- The set that a pattern takes a character of. -/
def set? : Pattern → Option CharSet
  | one set _ => some set
  | _ => none

/-- One of several patterns. If all are single characters or all are sets, it is one character. -/
def oneOf (patterns : List Pattern) : Pattern :=
  let choices := patterns.flatMap alternatives
  match choices, (choices.mapM character?).or (choices.mapM set?) with
  | [pattern], _ => pattern
  | _, some sets => ofSet (sets.foldl .union .nothing) true
  | choices, none => chooseFrom choices

/-- Whether a pattern consists of more than one part. -/
def isSequence : Pattern → Bool
  | sequence .. => true
  | _ => false

/-- What two lists start with. -/
def commonStart : List Pattern → List Pattern → List Pattern
  | a :: as, b :: bs => if a = b then a :: commonStart as bs else []
  | _, _ => []

/-- The parts that several sequences start with. -/
def sharedStart : List Pattern → List Pattern
  | [] => []
  | first :: rest =>
    if (first :: rest).all isSequence then
      rest.foldl (fun start pattern => commonStart start pattern.parts) first.parts
    else []

/-- One of several patterns, after the parts that all of them start with. -/
def anyOf (patterns : List Pattern) : Pattern :=
  let choices := patterns.flatMap alternatives
  match sharedStart choices with
  | [] => oneOf choices
  | start =>
    let remaining := choices.map fun choice => chain (choice.parts.drop start.length)
    inOrder (start ++ [oneOf remaining])

/-- Whether a pattern takes no character, whatever the text. -/
def takesNothing : Pattern → Bool
  | empty | here _ => true
  | literal _ | one .. => false
  | group _ inner => inner.takesNothing
  | sequence first rest | choice first rest => first.takesNothing && rest.takesNothing
  | repeated rounds _ round => rounds = .atMostOne && round.takesNothing

/-- A number of rounds of a pattern. Further rounds of one that takes no character make no
    difference. -/
def again (rounds : Rounds) (greedy : Bool) (round : Pattern) : Pattern :=
  if !round.takesNothing then repeated rounds greedy round
  else if rounds = .atLeastOne then round
  else repeated .atMostOne greedy round

/-- The least number of characters that a pattern takes. There is none if a part of it describes no
    text at all. -/
def leastLength? : Pattern → Option Nat
  | empty | here _ => some 0
  | literal text => some text.length
  | one set _ => if set.isEmpty then none else some 1
  | group _ inner => inner.leastLength?
  | sequence first rest => return (← first.leastLength?) + (← rest.leastLength?)
  | choice first rest => return min (← first.leastLength?) (← rest.leastLength?)
  | repeated rounds _ round =>
    round.leastLength?.map fun length => if rounds = .atLeastOne then length else 0

/-- Whether every match of a pattern is known to take a character. -/
def alwaysTakes (pattern : Pattern) : Bool := pattern.leastLength?.any (0 < ·)

end Pattern

end Provision
