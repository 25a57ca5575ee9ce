import Provision.Json.Quoted
import Provision.Json.Number

/-! # Values that are only checked

A value that nobody asks for, or that is kept as it was written, is only checked to be well
formed. Containers may be nested to any depth. -/

namespace Provision.Json.Skip

open Reader

/-- The kinds of containers. -/
inductive Container where
  | list
  | object
  deriving DecidableEq, Repr

/-- The byte that closes a container. -/
def Container.closer : Container → UInt8
  | list => 0x5d
  | object => 0x7d

/-- The refusal of a text that ends inside a container. -/
def Container.unfinished : Container → Cause
  | list => .endInList
  | object => .endInObject

/-- The refusal of what stands after an item where a comma or the end is wanted. -/
def Container.separatorMissing : Container → Cause
  | list => .expectedListCommaOrEnd
  | object => .expectedObjectCommaOrEnd

/-- Leaves out the name and the colon of a member. -/
def memberName : Reader Unit := do
  skipBlanks
  match ← peek? with
  | none => stopAhead .endInObject
  | some b =>
    if b = Quoted.quoteByte then advance else stopAhead .nameNotString
  Quoted.skip
  skipBlanks
  match ← peek? with
  | none => stopAhead .endInObject
  | some b => if b = 0x3a then advance else stopAhead .expectedColon

/-- Leaves out what stands in front of a value in a container. -/
def beforeValue : Container → Reader Unit
  | .list => pure ()
  | .object => memberName

/-- Leaves out a value that is no container. -/
def scalar (b : UInt8) : Reader Unit :=
  if b = 0x6e then do advance; word (Text.bytes "ull")
  else if b = 0x74 then do advance; word (Text.bytes "rue")
  else if b = 0x66 then do advance; word (Text.bytes "alse")
  else if Number.isStart b then Number.skip
  else if b = Quoted.quoteByte then do advance; Quoted.skip
  else stopAhead .expectedValue

mutual

/-- Leaves out a value and the rest of the containers it stands in, innermost first. The first
    argument bounds the steps taken. -/
def value : Nat → List Container → Reader Unit
  | 0, _ => stop .endInValue
  | steps + 1, outer => do
    skipBlanks
    match ← peek? with
    | none => stopAhead .endInValue
    | some b =>
      if b = 0x5b then do advance; content steps false .list outer
      else if b = 0x7b then do advance; content steps false .object outer
      else do scalar b; after steps outer

/-- Goes on behind a value. -/
def after : Nat → List Container → Reader Unit
  | _, [] => pure ()
  | 0, _ :: _ => stop .endInValue
  | steps + 1, container :: outer => content steps true container outer

/-- Goes on inside a container, behind an item or at the start. -/
def content : Nat → Bool → Container → List Container → Reader Unit
  | 0, _, _, _ => stop .endInValue
  | steps + 1, afterItem, container, outer => do
    skipBlanks
    match ← peek? with
    | none => stopAhead container.unfinished
    | some b =>
      if afterItem && b == 0x2c then do
        advance
        beforeValue container
        value steps (container :: outer)
      else if b = container.closer then do advance; after steps outer
      else if afterItem then stopAhead container.separatorMissing
      else do beforeValue container; value steps (container :: outer)

end

end Skip

/-- Leaves out one value. -/
def skipValue : Reader Unit := fun text => Skip.value (3 * text.length + 3) [] text

/-- Reads one value as it is written, without the blanks in front of it. -/
def readRaw : Reader Bytes := do
  Reader.skipBlanks
  let start ← get
  skipValue
  let rest ← get
  return start.take (start.length - rest.length)

end Provision.Json
