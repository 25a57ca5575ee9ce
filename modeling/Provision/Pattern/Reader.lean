import Provision.Pattern.Automaton
import Provision.Text.Alphanumeric
import Provision.Text.Blank

/-! # Reading patterns

The written form of a pattern. Characters stand for themselves, apart from `\.+*?()|[]{}^$`. Groups
may set flags, and brackets enclose sets of characters, which may be nested and combined. Classes of
characters that need tables of letters are refused, as are counts in braces, references to groups
and assertions about what a text before or behind would match. So are patterns whose parts are
nested too deeply. -/

namespace Provision.Pattern

/-- Something that was read, with the number of levels that its parts are nested. -/
structure Nested (α : Type) where
  content : α
  depth : Nat := 0

namespace Nested

/-- The most levels that the parts of a pattern may be nested. -/
def mostLevels : Nat := 250

/-- How deep things next to each other are. Two or more add a level of their own. -/
def depthOf {α : Type} (parts : List (Nested α)) : Nat :=
  let deepest := parts.foldl (fun depth part => max depth part.depth) 0
  if parts.length ≤ 1 then deepest else deepest + 1

/-- What is around something else. -/
def around {α β : Type} (inner : Nested α) (outer : α → β) : Nested β :=
  ⟨outer inner.content, inner.depth + 1⟩

end Nested

/-- What governs the reading of a part of a pattern. -/
structure Flags where
  /-- ASCII letters stand for both of their cases. -/
  caseless : Bool := false
  /-- Lines have starts and ends of their own. -/
  multiline : Bool := false
  /-- The point stands for a line break as well. -/
  dotAll : Bool := false
  /-- Repetitions prefer few rounds, and those with a question mark many. -/
  swapped : Bool := false
  /-- Characters are any of Unicode. -/
  unicode : Bool := true
  /-- A carriage return ends a line as well. -/
  carriage : Bool := false
  /-- Blanks and comments are left out. -/
  spaced : Bool := false
  deriving DecidableEq, Repr

namespace Flags

/-- The letters that stand for flags. -/
def letters : List Char := ['i', 'm', 's', 'U', 'u', 'R', 'x']

/-- Sets or clears the flag of a letter. -/
def set (flags : Flags) (value : Bool) : Char → Flags
  | 'i' => { flags with caseless := value }
  | 'm' => { flags with multiline := value }
  | 's' => { flags with dotAll := value }
  | 'U' => { flags with swapped := value }
  | 'u' => { flags with unicode := value }
  | 'R' => { flags with carriage := value }
  | 'x' => { flags with spaced := value }
  | _ => flags

/-- Sets the flags of letters, and clears those of letters behind a minus sign. -/
def update (flags : Flags) (letters : List Char) : Flags :=
  let flags := (letters.takeWhile (· != '-')).foldl (fun flags c => flags.set true c) flags
  (letters.dropWhile (· != '-')).foldl (fun flags c => flags.set false c) flags

/-- Whether characters would have to be compared without regard to the case of any letter. -/
def foldsAnyLetter (flags : Flags) : Bool := flags.caseless && flags.unicode

/-- Leaves out blanks and comments. The second argument tells whether a comment has begun. -/
def skipSpace : Bool → List Char → List Char
  | _, [] => []
  | true, c :: rest => skipSpace (c != '\n') rest
  | false, c :: rest =>
    if Text.isBlank c then skipSpace false rest
    else if c = '#' then skipSpace true rest
    else c :: rest

/-- Leaves out what the flags say does not count. -/
def skip (flags : Flags) (text : List Char) : List Char :=
  if flags.spaced then skipSpace false text else text

/-- The character that tells whether a hyphen before it stands in a range. Blanks do not count, nor
    do the sign of a comment and the blanks behind that; if nothing else is left, the first one
    does. -/
def ahead (flags : Flags) (text : List Char) : Option Char :=
  let rest := if flags.spaced then text.dropWhile Text.isBlank else text
  let rest :=
    if flags.spaced && rest.head? == some '#' then rest.tail.dropWhile Text.isBlank else rest
  rest.head?.or text.head?

/-- What a character stands for. -/
def patternOf? (flags : Flags) (c : Char) : Option Pattern :=
  if flags.foldsAnyLetter then none
  else if flags.caseless then some (.ofSet (.caseless (.single c)) flags.unicode)
  else some (.literal [c])

/-- The set that a range of characters inside brackets stands for. Outside Unicode only ASCII
    characters may stand in brackets. -/
def rangeOf? (flags : Flags) (low high : Char) : Option CharSet :=
  if high < low || flags.foldsAnyLetter then none
  else if !flags.unicode && 0x80 ≤ high.toNat then none
  else if flags.caseless then some (.caseless (.range low high))
  else some (.range low high)

/-- The set of what is not in a set. Outside Unicode there is none that holds characters only. -/
def complementOf? (flags : Flags) (set : CharSet) : Option CharSet :=
  if flags.unicode then some (.complement set) else none

/-- A named set of characters inside brackets. -/
def namedSet? (flags : Flags) (set : CharSet) : Option CharSet :=
  if flags.foldsAnyLetter then none
  else if flags.caseless then some set.caseless
  else some set

/-- The set that the point stands for. -/
def dot? (flags : Flags) : Option CharSet :=
  if !flags.unicode then none
  else if flags.dotAll then some (.complement .nothing)
  else if flags.carriage then
    some (.complement (.ofRanges [('\n', '\n'), ('\r', '\r')]))
  else some (.complement (.single '\n'))

/-- The assertion of a circumflex. -/
def start (flags : Flags) : Assertion :=
  if !flags.multiline then .textStart
  else if flags.carriage then .anyLineStart
  else .lineStart

/-- The assertion of a dollar sign. -/
def stop (flags : Flags) : Assertion :=
  if !flags.multiline then .textEnd
  else if flags.carriage then .anyLineEnd
  else .lineEnd

end Flags

/-- What an escape stands for. -/
inductive Escape where
  | char (c : Char)
  | set (set : CharSet)
  | here (assertion : Assertion)
  deriving DecidableEq, Repr

namespace Escape

/-- The characters that have a meaning of their own somewhere in a pattern. -/
def special : List Char :=
  ['\\', '.', '+', '*', '?', '(', ')', '|', '[', ']', '\x7b', '\x7d', '^', '$', '#', '&', '-', '~']

/-- Whether a character stands for itself behind a backslash. -/
def isPlain (c : Char) : Bool :=
  special.contains c || c.toNat < 0x80 && !c.isAlphanum && c != '<' && c != '>'

/-- The value of a hexadecimal digit of either case. -/
def hexValue? (c : Char) : Option Nat :=
  if c.isDigit then some (c.toNat - '0'.toNat)
  else if 'a' ≤ c ∧ c ≤ 'f' then some (c.toNat - 'a'.toNat + 10)
  else if 'A' ≤ c ∧ c ≤ 'F' then some (c.toNat - 'A'.toNat + 10)
  else none

/-- Reads a number of hexadecimal digits behind those that were read. -/
def readHex (flags : Flags) : Nat → Nat → List Char → Option (Nat × List Char)
  | 0, value, text => some (value, text)
  | digits + 1, value, text =>
    match flags.skip text with
    | [] => none
    | c :: rest => do readHex flags digits (16 * value + (← hexValue? c)) rest

/-- Reads a character given by a number of hexadecimal digits. Outside Unicode two digits stand for
    a byte, which is a character only if it is ASCII. -/
def readCode (flags : Flags) (digits : Nat) (text : List Char) : Option (Escape × List Char) := do
  let (code, rest) ← readHex flags digits 0 text
  if ¬code.isValidChar ∨ (digits = 2 ∧ !flags.unicode ∧ 0x80 ≤ code) then none
  else return (.char (Char.ofNat code), rest)

/-- A named set of characters, which is one of ASCII characters. -/
def ofSet? (flags : Flags) (set : CharSet) : Option Escape :=
  if flags.unicode then none else some (.set set)

/-- An assertion about words, which are words of ASCII characters. -/
def ofWord? (flags : Flags) (assertion : Assertion) : Option Escape :=
  if flags.unicode then none else some (.here assertion)

/-- Reads an escape behind its backslash. -/
def read? (flags : Flags) : List Char → Option (Escape × List Char)
  | [] => none
  | c :: rest =>
    if isPlain c then some (.char c, rest)
    else
      match c with
      | 'x' => readCode flags 2 rest
      | 'u' => readCode flags 4 rest
      | 'U' => readCode flags 8 rest
      | 'd' => (ofSet? flags .digit).map (·, rest)
      | 's' => (ofSet? flags .space).map (·, rest)
      | 'w' => (ofSet? flags .word).map (·, rest)
      | 'a' => some (.char '\x07', rest)
      | 'f' => some (.char '\x0c', rest)
      | 't' => some (.char '\t', rest)
      | 'n' => some (.char '\n', rest)
      | 'r' => some (.char '\r', rest)
      | 'v' => some (.char '\x0b', rest)
      | 'A' => some (.here .textStart, rest)
      | 'z' => some (.here .textEnd, rest)
      | 'b' => (ofWord? flags .wordEdge).map (·, rest)
      | 'B' => (ofWord? flags .noWordEdge).map (·, rest)
      | '<' => (ofWord? flags .wordStart).map (·, rest)
      | '>' => (ofWord? flags .wordEnd).map (·, rest)
      | _ => none

end Escape

/-- What was read before an operator inside brackets, with the operation. -/
structure LeftSide where
  operation : CharSet → CharSet → CharSet
  set : Nested CharSet

/-- Brackets that have been opened and not yet closed. -/
structure OpenSet where
  /-- Whether everything else is meant. -/
  negated : Bool
  /-- What the items read so far are to be combined with, once all are read. -/
  left : Option LeftSide := none
  /-- The items read so far, the last one first. -/
  items : List (Nested CharSet) := []

namespace OpenSet

/-- Adds an item. -/
def add (level : OpenSet) (item : Nested CharSet) : OpenSet :=
  { level with items := item :: level.items }

/-- What has been read so far. -/
def combined (level : OpenSet) : Nested CharSet :=
  let items : Nested CharSet :=
    ⟨level.items.foldr (fun item set => set.union item.content) .nothing,
      Nested.depthOf level.items⟩
  match level.left with
  | none => items
  | some left =>
    ⟨left.operation left.set.content items.content, max left.set.depth items.depth + 1⟩

/-- Goes on behind an operator. -/
def operate (level : OpenSet) (operation : CharSet → CharSet → CharSet) : OpenSet :=
  { level with left := some ⟨operation, level.combined⟩, items := [] }

/-- The set that brackets enclose. -/
def close? (level : OpenSet) (flags : Flags) : Option (Nested CharSet) := do
  let set := level.combined
  let content ← if level.negated then flags.complementOf? set.content else some set.content
  return set.around fun _ => content

/-- Adds the hyphens that the items of brackets start with. The first argument bounds the steps
    taken. -/
def openHyphens? (flags : Flags) : Nat → OpenSet → List Char → Option (OpenSet × List Char)
  | steps + 1, level, '-' :: rest => do
    let hyphen ← flags.rangeOf? '-' '-'
    openHyphens? flags steps (level.add ⟨hyphen, 0⟩) (flags.skip rest)
  | _, level, text => some (level, text)

/-- Opens brackets behind the first one. A closing bracket right behind it is an item. -/
def open? (flags : Flags) (text : List Char) : Option (OpenSet × List Char) := do
  let text := flags.skip text
  let negated := text.head? == some '^'
  let text := if negated then flags.skip text.tail else text
  let (level, rest) ← openHyphens? flags text.length { negated } text
  match rest with
  | [] => none
  | c :: rest =>
    if c = ']' ∧ level.items.isEmpty then
      return (level.add ⟨← flags.rangeOf? ']' ']', 0⟩, rest)
    else some (level, c :: rest)

/-- Reads the name of a set of ASCII characters with its colons and the bracket behind, after the
    opening bracket. -/
def named? (flags : Flags) : List Char → Option (Option CharSet × List Char)
  | ':' :: text =>
    let negated := text.head? == some '^'
    let text := if negated then text.tail else text
    match text.dropWhile (· != ':') with
    | ':' :: ']' :: rest =>
      (CharSet.named.lookup (String.ofList (text.takeWhile (· != ':')))).map fun set =>
        let set := flags.namedSet? set
        (if negated then set.bind flags.complementOf? else set, rest)
    | _ => none
  | _ => none

/-- Reads one character or one set of characters inside brackets. -/
def item? (flags : Flags) : List Char → Option (Escape × List Char)
  | [] => none
  | '\\' :: rest => Escape.read? flags rest
  | c :: rest => some (.char c, rest)

/-- Whether a hyphen is next that stands between the two ends of a range. -/
def isRange (flags : Flags) : List Char → Bool
  | '-' :: rest =>
    let next := flags.ahead rest
    next != some ']' && next != some '-'
  | _ => false

/-- Reads an item of brackets that is no bracket and no operator. -/
def readItem? (flags : Flags) (text : List Char) : Option (CharSet × List Char) := do
  let (first, rest) ← item? flags text
  let rest := flags.skip rest
  if isRange flags rest then
    let (last, rest) ← item? flags (flags.skip rest.tail)
    match first, last with
    | .char low, .char high => return (← flags.rangeOf? low high, rest)
    | _, _ => none
  else
    match first with
    | .char c => return (← flags.rangeOf? c c, rest)
    | .set set => return (set, rest)
    | .here _ => none

/-- Reads the rest of nested brackets, of which the innermost comes first. The first argument
    bounds the steps taken. -/
def read? (flags : Flags) :
    Nat → OpenSet → List OpenSet → List Char → Option (Nested CharSet × List Char)
  | 0, _, _, _ => none
  | steps + 1, level, outer, text =>
    match flags.skip text with
    | '[' :: rest =>
      match named? flags rest with
      | some (set, rest) => do read? flags steps (level.add ⟨← set, 0⟩) outer rest
      | none => do
        let (inner, rest) ← open? flags rest
        read? flags steps inner (level :: outer) rest
    | ']' :: rest => do
      let set ← level.close? flags
      match outer with
      | [] => return (set, rest)
      | level :: outer => read? flags steps (level.add set) outer rest
    | '&' :: '&' :: rest => read? flags steps (level.operate .common) outer rest
    | '-' :: '-' :: rest => read? flags steps (level.operate .without) outer rest
    | '~' :: '~' :: rest => read? flags steps (level.operate .either) outer rest
    | text => do
      let (set, rest) ← readItem? flags text
      read? flags steps (level.add ⟨set, 0⟩) outer rest

end OpenSet

/-- Reads a set of characters behind its opening bracket. -/
def readSet? (flags : Flags) (text : List Char) : Option (Nested CharSet × List Char) := do
  let (level, rest) ← OpenSet.open? flags text
  OpenSet.read? flags (rest.length + 1) level [] rest

/-- Reads the letters of flags up to a colon or a closing parenthesis, which comes with them. -/
def readFlags? : List Char → List Char → Option (List Char × Char × List Char)
  | _, [] => none
  | seen, c :: rest =>
    if c = ':' ∨ c = ')' then
      if seen.head? = some '-' then none else some (seen.reverse, c, rest)
    else if (c = '-' ∨ Flags.letters.contains c) ∧ !seen.contains c then
      readFlags? (c :: seen) rest
    else none

/-- Reads the name of a group up to the angle bracket behind it. -/
def readName? (text : List Char) : Option (List Char × List Char) :=
  let isFirst (c : Char) := c == '_' || Text.isAlphabetic c
  let isLater (c : Char) := ['_', '.', '[', ']'].contains c || Text.isAlphanumeric c
  match text with
  | [] => none
  | c :: rest =>
    match rest.dropWhile isLater with
    | '>' :: behind => if isFirst c then some (c :: rest.takeWhile isLater, behind) else none
    | _ => none

/-- What has been read of a group. -/
structure OpenGroup where
  flags : Flags
  /-- Its number, if it has one. -/
  number : Option Nat := none
  /-- The choices in front of the one under way, the last one first. -/
  choices : List (Nested Pattern) := []
  /-- What the choice under way consists of, the last part first. Settings of flags are parts that
      match nothing and cannot be repeated. -/
  parts : List (Nested Pattern × Bool) := []

namespace OpenGroup

/-- Adds a part. -/
def add (group : OpenGroup) (part : Nested Pattern) : OpenGroup :=
  { group with parts := (part, true) :: group.parts }

/-- Sets flags. -/
def setFlags (group : OpenGroup) (flags : Flags) : OpenGroup :=
  { group with flags, parts := (⟨.empty, 0⟩, false) :: group.parts }

/-- The choice under way. -/
def lastChoice (group : OpenGroup) : Nested Pattern :=
  let parts := group.parts.reverse.map Prod.fst
  ⟨.inOrder (parts.map Nested.content), Nested.depthOf parts⟩

/-- Goes on with another choice. -/
def another (group : OpenGroup) : OpenGroup :=
  { group with choices := group.lastChoice :: group.choices, parts := [] }

/-- The pattern inside a group. -/
def inner (group : OpenGroup) : Nested Pattern :=
  match group.choices with
  | [] => group.lastChoice
  | choices =>
    let choices := (group.lastChoice :: choices).reverse
    ⟨.anyOf (choices.map Nested.content), Nested.depthOf choices⟩

/-- The pattern of a group. -/
def pattern (group : OpenGroup) : Nested Pattern :=
  group.inner.around fun inner =>
    match group.number with
    | none => inner
    | some number => .group number inner

/-- Repeats the last part. -/
def again? (group : OpenGroup) (rounds : Rounds) (greedy : Bool) : Option OpenGroup :=
  match group.parts with
  | (part, true) :: parts =>
    some (OpenGroup.add { group with parts } (part.around (.again rounds greedy)))
  | _ => none

end OpenGroup

/-- The repetition that a sign stands for. -/
def roundsOf? : Char → Option Rounds
  | '?' => some .atMostOne
  | '*' => some .anyNumber
  | '+' => some .atLeastOne
  | _ => none

/-- What has been read of a pattern. -/
structure Reading where
  /-- The innermost group that is not closed. -/
  group : OpenGroup := { flags := {} }
  /-- The groups around it, innermost first. -/
  outer : List OpenGroup := []
  /-- How many groups have numbers. -/
  numbered : Nat := 0
  /-- The names of groups. -/
  names : List (List Char) := []

namespace Reading

/-- Opens a group under flags. -/
def enter (reading : Reading) (group : OpenGroup) : Reading :=
  { reading with group, outer := reading.group :: reading.outer }

/-- Opens a group that has the next number. -/
def enterNumbered (reading : Reading) : Reading :=
  let reading := { reading with numbered := reading.numbered + 1 }
  reading.enter { flags := reading.group.flags, number := some reading.numbered }

/-- Opens a group, or sets flags, behind an opening parenthesis. -/
def enter? (reading : Reading) (text : List Char) : Option (Reading × List Char) :=
  let flags := reading.group.flags
  let named (text : List Char) : Option (Reading × List Char) := do
    let (name, rest) ← readName? text
    if reading.names.contains name then none
    else return ({ reading with names := name :: reading.names }.enterNumbered, rest)
  match flags.skip text with
  | '?' :: 'P' :: '<' :: rest => named rest
  | '?' :: '<' :: rest => named rest
  | '?' :: rest => do
    let (letters, sign, rest) ← readFlags? [] rest
    let flags := flags.update letters
    if sign = ':' then return (reading.enter { flags }, rest)
    else if letters = [] then none
    else return ({ reading with group := reading.group.setFlags flags }, rest)
  | text => some (reading.enterNumbered, text)

/-- Closes a group. -/
def leave? (reading : Reading) : Option Reading :=
  match reading.outer with
  | [] => none
  | group :: outer => some { reading with group := group.add reading.group.pattern, outer }

/-- Adds a part. -/
def add (reading : Reading) (part : Nested Pattern) : Reading :=
  { reading with group := reading.group.add part }

/-- Reads a part that is no group and no repetition. -/
def part? (flags : Flags) : List Char → Option (Nested Pattern × List Char)
  | [] => none
  | '[' :: rest => do
    let (set, rest) ← readSet? flags rest
    return (⟨.ofSet set.content flags.unicode, set.depth⟩, rest)
  | '.' :: rest => return (⟨.one (← flags.dot?) true, 0⟩, rest)
  | '^' :: rest => some (⟨.here flags.start, 0⟩, rest)
  | '$' :: rest => some (⟨.here flags.stop, 0⟩, rest)
  | '\\' :: rest => do
    match ← Escape.read? flags rest with
    | (.char c, rest) => return (⟨← flags.patternOf? c, 0⟩, rest)
    | (.set set, rest) => return (⟨.one set flags.unicode, 0⟩, rest)
    | (.here assertion, rest) => return (⟨.here assertion, 0⟩, rest)
  | '\x7b' :: _ => none
  | c :: rest => return (⟨← flags.patternOf? c, 0⟩, rest)

/-- Reads the rest of a pattern. The first argument bounds the steps taken. -/
def rest? : Nat → Reading → List Char → Option (Nested Pattern)
  | 0, _, _ => none
  | steps + 1, reading, text =>
    let flags := reading.group.flags
    match flags.skip text with
    | [] => if reading.outer.isEmpty then some reading.group.inner else none
    | c :: rest =>
      if c = '(' then do
        let (reading, rest) ← reading.enter? rest
        rest? steps reading rest
      else if c = ')' then do rest? steps (← reading.leave?) rest
      else if c = '|' then rest? steps { reading with group := reading.group.another } rest
      else
        match roundsOf? c with
        | some rounds => do
          let marked := rest.head? == some '?'
          let group ← reading.group.again? rounds (marked == flags.swapped)
          rest? steps { reading with group } (if marked then rest.tail else rest)
        | none => do
          let (part, rest) ← part? flags (c :: rest)
          rest? steps (reading.add part) rest

end Reading

/-- Reads a pattern. -/
def parse? (text : List Char) : Option Pattern := do
  let pattern ← Reading.rest? (text.length + 1) {} text
  if pattern.depth ≤ Nested.mostLevels then return pattern.content else none

end Provision.Pattern
