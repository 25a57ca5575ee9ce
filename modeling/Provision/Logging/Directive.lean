import Provision.Logging.Level
import Provision.Pattern.Reader
import Provision.Text.Alphanumeric
import Provision.Text.Blank
import Provision.Text.Part

/-! # Log directives

A directive lets entries up to a threshold through: all entries, those whose target starts in a
certain way, those with a field of a certain name, or those inside spans of a certain name or with
a certain field, whose value may have to pass a test. In writing it is a level or a target, then in
brackets the span and in braces its field, then the threshold behind an equals sign; everything but
one of these may be left out. -/

namespace Provision.Logging

/-- What gets through: entries of a level and more severe ones, or nothing. -/
abbrev Threshold := Option Level

namespace Threshold

/-- Whether an entry of a level gets through. -/
def admits (threshold : Threshold) (level : Level) : Bool :=
  threshold.any fun most => decide (level.rank ≤ most.rank)

/-- The one of two thresholds that lets more through. -/
def wider (a b : Threshold) : Threshold := if b.all a.admits then a else b

/-- The threshold that lets through what one of several does. -/
def widest (thresholds : List Threshold) : Threshold := thresholds.foldl wider none

/-- The threshold written as a number. -/
def ofNumber? (digits : List Char) : Option Threshold :=
  let digits := if digits.head? = some '+' then digits.tail else digits
  if digits.isEmpty || !digits.all Char.isDigit then none
  else
    match digits.foldl (fun n d => 10 * n + (d.toNat - '0'.toNat)) 0 with
    | 0 => some none
    | n => (Level.all.find? fun level => level.rank == n).map some

/-- The threshold of a text: the name of a level in any case, a number, or `off`. -/
def ofText? (text : List Char) : Option Threshold :=
  (ofNumber? text).or <|
    let name := String.ofList (text.map Text.lowerAscii)
    if name = "off" then some none
    else (Level.all.find? fun level => level.name.map Text.lowerAscii == name).map some

end Threshold

/-- What the value of a field has to be. -/
inductive ValueTest where
  /-- A truth value or a number. -/
  | scalar
  /-- A text that a pattern accepts; the pattern was written as `source`. -/
  | text (source : List Char) (pattern : Pattern)
  deriving DecidableEq, Repr

namespace ValueTest

/-- A text without the sign that it may start with. -/
def unsigned (text : List Char) : List Char :=
  if text.head? = some '-' ∨ text.head? = some '+' then text.tail else text

/-- Whether a text is an exponent with its letter, or empty. -/
def isExponent : List Char → Bool
  | [] => true
  | c :: rest =>
    let digits := unsigned rest
    Text.lowerAscii c == 'e' && !digits.isEmpty && digits.all Char.isDigit

/-- Whether a text is a number: digits with or without a point and an exponent, infinity or what is
    no number. -/
def isNumber (text : List Char) : Bool :=
  let text := unsigned text
  let whole := text.takeWhile Char.isDigit
  ["inf", "infinity", "nan"].contains (String.ofList (text.map Text.lowerAscii)) ||
    match text.dropWhile Char.isDigit with
    | '.' :: rest =>
      let fraction := rest.takeWhile Char.isDigit
      !(whole.isEmpty && fraction.isEmpty) && isExponent (rest.dropWhile Char.isDigit)
    | rest => !whole.isEmpty && isExponent rest

/-- Reads a test. What is neither a truth value nor a number is a pattern. -/
def parse? (source : List Char) : Option ValueTest :=
  let name := String.ofList source
  if name = "true" ∨ name = "false" ∨ isNumber source then some scalar
  else (Pattern.parse? source).map (text source)

/-- Whether a text passes the test. -/
def accepts (value : String) : ValueTest → Bool
  | scalar => false
  | text _ pattern => pattern.accepts value

end ValueTest

/-- The field that an entry or a span has to have. -/
structure FieldTest where
  name : String
  /-- The test of its value, if there is one. -/
  value : Option ValueTest := none
  deriving DecidableEq, Repr

namespace FieldTest

/-- Reads a test of a field: its name and the test of its value behind an equals sign. What follows
    another equals sign does not count. -/
def parse? (text : List Char) : Option FieldTest :=
  let name := String.ofList (text.takeWhile (· != '='))
  match text.dropWhile (· != '=') with
  | [] => some { name }
  | _ :: rest =>
    (ValueTest.parse? (rest.takeWhile (· != '='))).map fun value => { name, value := some value }

/-- Whether the fields of a span pass the test. -/
def accepts (test : FieldTest) (fields : List (String × String)) : Bool :=
  (fields.lookup test.name).any fun value => test.value.all (·.accepts value)

end FieldTest

/-- One part of a filter. -/
structure Directive where
  /-- How the target has to start. -/
  target : List Char := []
  /-- The name of the span, if one is asked for. -/
  span : Option (List Char) := none
  /-- The field that is asked for. -/
  field : Option FieldTest := none
  threshold : Threshold := some .trace
  deriving DecidableEq, Repr

namespace Directive

/-- Why a text is no directive. -/
inductive Refusal where
  | malformed
  /-- A part of it ends inside a character. -/
  | misplaced (message : String)
  deriving DecidableEq, Repr

/-- Where the reading of a directive stands. Numbers are offsets at which a part has begun. -/
inductive Stage where
  /-- Before the first character. -/
  | start
  /-- In a level or a target. -/
  | word
  /-- In the name of a span. -/
  | span (start : Nat)
  /-- In a field. -/
  | field (start : Nat)
  /-- Behind the braces around a field. -/
  | behindField
  /-- Behind the brackets around a span. -/
  | behindSpan
  /-- In the threshold. -/
  | threshold (start : Nat)
  deriving DecidableEq, Repr

/-- What has been read of a directive. -/
structure Reading where
  directive : Directive := {}
  stage : Stage := .start
  /-- The offset of the next character. -/
  offset : Nat := 0
  deriving DecidableEq, Repr

/-- Whether a character may start a directive that starts with a level or a target. -/
def isStart (c : Char) : Bool :=
  Text.isAlphanumeric c || c == '-' || c == ':' || c == '_'

/-- The part of a directive between two offsets. -/
def cut (text : List Char) (start stop : Nat) : Except Refusal (List Char) :=
  (Text.part text start stop).mapError .misplaced

/-- The part of a directive from an offset on. -/
def cutFrom (text : List Char) (start : Nat) : Except Refusal (List Char) :=
  (Text.partFrom text start).mapError .misplaced

/-- Something that was read, or else the text is malformed. -/
def required {α : Type} (found : Option α) : Except Refusal α :=
  match found with
  | some value => .ok value
  | none => .error .malformed

/-- Goes on to another stage behind a character, with what has been read. -/
def Reading.goOn (reading : Reading) (c : Char) (stage : Stage)
    (directive : Directive := reading.directive) : Reading :=
  ⟨directive, stage, reading.offset + c.utf8Size⟩

/-- Reads one character. Offsets count from the first character that is not blank, whereas `text`
    is the directive with the blanks in front of it. Blanks in front therefore put the parts in
    front of where they stand. -/
def Reading.next (text : List Char) (reading : Reading) (c : Char) : Except Refusal Reading := do
  let directive := reading.directive
  let here := reading.offset
  let behind := here + 1
  match reading.stage with
  | .start =>
    if c = '[' then return reading.goOn c (.span behind)
    else if isStart c then return reading.goOn c .word
    else throw .malformed
  | .word =>
    if c = '=' then
      return reading.goOn c (.threshold behind) { directive with target := ← cut text 0 here }
    else if c = '[' then
      return reading.goOn c (.span behind) { directive with target := ← cut text 0 here }
    else return reading.goOn c .word
  | .span start =>
    if c = ']' then
      let span ← cut text start here
      return reading.goOn c .behindSpan { directive with span := some span }
    else if c = '\x7b' then
      let span ← cut text start here
      let span := if span.isEmpty then none else some span
      return reading.goOn c (.field behind) { directive with span }
    else return reading.goOn c reading.stage
  | .field start =>
    if c = '\x7d' then
      let field ← cut text start here
      if field.isEmpty then throw .malformed
      else
        let field ← required (FieldTest.parse? field)
        return reading.goOn c .behindField { directive with field := some field }
    else return reading.goOn c reading.stage
  | .behindField => if c = ']' then return reading.goOn c .behindSpan else throw .malformed
  | .behindSpan =>
    if c = '=' then return reading.goOn c (.threshold behind) else throw .malformed
  | .threshold _ => return reading.goOn c reading.stage

/-- The directive that has been read at the end of its text. A word alone is a level, or else a
    target; an equals sign with nothing behind it lets everything through. -/
def Reading.finish (text : List Char) (reading : Reading) : Except Refusal Directive := do
  let directive := reading.directive
  match reading.stage with
  | .word =>
    match Threshold.ofText? text with
    | some threshold => return { directive with threshold }
    | none => return { directive with target := text }
  | .threshold start =>
    let level ← cutFrom text start
    if level.isEmpty then return directive
    else return { directive with threshold := ← required (Threshold.ofText? level) }
  | .behindSpan => return directive
  | _ => throw .malformed

/-- Reads a directive. -/
def parse (text : List Char) : Except Refusal Directive := do
  let reading ← (Text.trimmed text).foldlM (Reading.next text) {}
  reading.finish text

/-- Whether the directive tests the value of a field. -/
def testsValue (directive : Directive) : Bool := directive.field.any (·.value.isSome)

/-- Whether the directive is about spans and what is inside of them. -/
def concernsSpans (directive : Directive) : Bool :=
  directive.span.isSome || directive.field.isSome

/-- Whether the directive is about entries, wherever they are. -/
def concernsEntries (directive : Directive) : Bool :=
  directive.span.isNone && !directive.testsValue

/-- Whether the directive is about a target. -/
def covers (directive : Directive) (target : String) : Bool :=
  directive.target.isPrefixOf target.toList

/-- Whether the directive is about the events of a target with fields of these names. -/
def coversEvent (directive : Directive) (target : String) (names : List String) : Bool :=
  directive.covers target && directive.field.all fun field => names.contains field.name

/-- Whether the directive is about the spans of a name and a target with these fields. -/
def coversSpan (directive : Directive) (name target : String) (fields : List (String × String)) :
    Bool :=
  directive.covers target && directive.span.all (· == name.toList) &&
    directive.field.all fun field => (fields.lookup field.name).isSome

/-- Whether a span that the directive is about passes its test. -/
def acceptsSpan (directive : Directive) (fields : List (String × String)) : Bool :=
  directive.field.all (·.accepts fields)

/-- Whether two directives ask for the same. -/
def asksLike (a b : Directive) : Bool :=
  a.target == b.target && a.span == b.span && a.field == b.field

/-- Whether a directive about the entries of a target is more specific than another: it asks for a
    longer target, or for a field, or for one whose name comes later. -/
def isMoreSpecific (a b : Directive) : Bool :=
  b.target.length < a.target.length ||
    a.target.length == b.target.length &&
      match a.field, b.field with
      | some a, some b => decide (b.name < a.name)
      | a, b => a.isSome && b.isNone

end Directive

end Provision.Logging
