/-! # Sets of characters

A set is the list of the ranges that it consists of, in ascending order and with characters between
them that are not in it, so that one set is written in one way. -/

namespace Provision

/-- A set of characters. -/
structure CharSet where
  ranges : List (Char × Char)
  deriving DecidableEq, Repr

namespace CharSet

/-- Whether a character is in a set. -/
def contains (set : CharSet) (c : Char) : Bool :=
  set.ranges.any fun (low, high) => decide (low ≤ c) && decide (c ≤ high)

/-- The set of no character. -/
def nothing : CharSet := ⟨[]⟩

/-- Whether no character is in a set. -/
def isEmpty (set : CharSet) : Bool := set.ranges.isEmpty

/-- The set of every character between two, both included. -/
def range (low high : Char) : CharSet := ⟨[(low, high)]⟩

/-- The set of one character. -/
def single (c : Char) : CharSet := range c c

/-- Adds a range to ranges. It takes in those that it overlaps or touches. -/
def insertRange : Char × Char → List (Char × Char) → List (Char × Char)
  | new, [] => [new]
  | (low, high), (low', high') :: rest =>
    if high.toNat + 1 < low'.toNat then (low, high) :: (low', high') :: rest
    else if high'.toNat + 1 < low.toNat then (low', high') :: insertRange (low, high) rest
    else insertRange (if low ≤ low' then low else low', if high ≤ high' then high' else high) rest

/-- What is in one of several ranges. -/
def ofRanges (ranges : List (Char × Char)) : CharSet := ⟨ranges.foldr insertRange []⟩

/-- What is in one of two sets. -/
def union (a b : CharSet) : CharSet := ⟨b.ranges.foldr insertRange a.ranges⟩

/-- What is in both sets. -/
def common (a b : CharSet) : CharSet :=
  let overlap (first second : Char × Char) : Option (Char × Char) :=
    let low := if first.1 ≤ second.1 then second.1 else first.1
    let high := if first.2 ≤ second.2 then first.2 else second.2
    if low ≤ high then some (low, high) else none
  ⟨a.ranges.flatMap fun first => b.ranges.filterMap (overlap first)⟩

/-- The character before one that is not the first of all. -/
def previous (c : Char) : Char :=
  if c = '\ue000' then '\ud7ff' else Char.ofNat (c.toNat - 1)

/-- The character after one, unless it is the last of all. -/
def next? (c : Char) : Option Char :=
  if c = '\ud7ff' then some '\ue000'
  else if c.toNat < 0x10ffff then some (Char.ofNat (c.toNat + 1))
  else none

/-- The ranges between ranges, from a character on. Between two ranges on both sides of the
    surrogates there is nothing, which is given as a range with its ends the wrong way round. -/
def gaps : Option Char → List (Char × Char) → List (Char × Char)
  | none, _ => []
  | some start, [] => [(start, Char.ofNat 0x10ffff)]
  | some start, (low, high) :: rest =>
    (if low = '\x00' then [] else [(start, previous low)]) ++ gaps (next? high) rest

/-- Every character that is not in a set. Where one range ends and another starts next to the
    surrogates, those two characters count as left out. -/
def complement (set : CharSet) : CharSet :=
  ⟨(gaps (some '\x00') set.ranges).map fun (a, b) => if a ≤ b then (a, b) else (b, a)⟩

/-- What is in the first set and not in the second. -/
def without (a b : CharSet) : CharSet := a.common ⟨gaps (some '\x00') b.ranges⟩

/-- What is in exactly one of two sets. -/
def either (a b : CharSet) : CharSet := (a.union b).without (a.common b)

/-- What is in a set, and ASCII letters that are in it in their other case. -/
def caseless (set : CharSet) : CharSet :=
  let moved (letters : CharSet) (move : Char → Char) : List (Char × Char) :=
    (set.common letters).ranges.map fun (low, high) => (move low, move high)
  (set.union (ofRanges (moved (range 'a' 'z') Char.toUpper))).union
    (ofRanges (moved (range 'A' 'Z') Char.toLower))

/-- Decimal digits. -/
def digit : CharSet := range '0' '9'

/-- ASCII blanks, line breaks included. -/
def space : CharSet := ofRanges [('\t', '\r'), (' ', ' ')]

/-- ASCII letters and digits and the low line. -/
def word : CharSet := ofRanges [('0', '9'), ('A', 'Z'), ('_', '_'), ('a', 'z')]

/-- The named sets of ASCII characters. -/
def named : List (String × CharSet) :=
  [("alnum", ofRanges [('0', '9'), ('A', 'Z'), ('a', 'z')]),
    ("alpha", ofRanges [('A', 'Z'), ('a', 'z')]),
    ("ascii", range '\x00' '\x7f'),
    ("blank", ofRanges [('\t', '\t'), (' ', ' ')]),
    ("cntrl", ofRanges [('\x00', '\x1f'), ('\x7f', '\x7f')]),
    ("digit", digit),
    ("graph", range '!' '~'),
    ("lower", range 'a' 'z'),
    ("print", range ' ' '~'),
    ("punct", ofRanges [('!', '/'), (':', '@'), ('[', '\x60'), ('\x7b', '~')]),
    ("space", space),
    ("upper", range 'A' 'Z'),
    ("word", word),
    ("xdigit", ofRanges [('0', '9'), ('A', 'F'), ('a', 'f')])]

/-- Whether a character is an ASCII letter, an ASCII digit or the low line. -/
def isWord (c : Char) : Bool := word.contains c

end CharSet

end Provision
