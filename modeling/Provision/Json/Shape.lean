import Provision.Json.Skip
import Provision.Json.Value

/-! # Typed decoding

A shape says which texts are accepted as values of a type. An integer is in range and written
without fraction or exponent. A struct is an object with its fields in any order, where fields it
does not know are ignored and a field given twice is refused, or an array of its fields in
declaration order. An optional field that an object leaves out is null; in an array only fields
with a default may be left out, from the end. Where any value is accepted, an object whose only
member has a certain name stands for the value of the text in that member.

Containers may be nested to a certain depth only. Each reader of values is given how many more may
be opened, and hands one less on to what is inside of a container, whatever the shapes of the two.
Only what is kept as it was written, or passed over, may be nested deeper. -/

namespace Provision.Json

/-- The type of a decoded value. -/
inductive Shape where
  /-- Only null. -/
  | unit
  | bool
  /-- An integer between two bounds, both included, of a type of this name. -/
  | int (name : String) (low high : Int)
  | string
  /-- Null or a value of a shape. -/
  | option (inner : Shape)
  | list (item : Shape)
  /-- An array of exactly two values. -/
  | pair (first second : Shape)
  /-- An object with any names, sorted by name; of several with one name the last counts. -/
  | map (value : Shape)
  /-- Any value; the members of objects are sorted by name. -/
  | any
  /-- Any value, kept as it was written. -/
  | raw
  deriving DecidableEq, Repr

/-- A field of a struct. -/
structure Field where
  name : String
  shape : Shape
  /-- What stands for the field when it is left out, if it may be. -/
  default? : Option Value := none

/-- What a whole text is decoded as: a value of a shape, or a struct. -/
inductive Form where
  | plain (shape : Shape)
  | struct (name : String) (fields : List Field)

open Reader

/-- The end of an array behind its last wanted item. -/
def endList : Reader Unit := do
  skipBlanks
  match ← peek? with
  | none => stopAhead .endInList
  | some b =>
    if b = 0x5d then advance
    else if b = 0x2c then do
      advance
      skipBlanks
      if (← peek?) = some 0x5d then stopAhead .trailingComma else stopAhead .trailingCharacters
    else stopAhead .trailingCharacters

/-- The end of an object behind its last wanted member. -/
def endObject : Reader Unit := do
  skipBlanks
  match ← peek? with
  | none => stopAhead .endInObject
  | some b =>
    if b = 0x7d then advance
    else if b = 0x2c then stopAhead .trailingComma
    else stopAhead .trailingCharacters

/-- Whether another item follows; if so, goes to its start. -/
def nextItem (isFirst : Bool) : Reader Bool := do
  skipBlanks
  match ← peek? with
  | none => stopAhead .endInList
  | some b =>
    if b = 0x5d then return false
    else if isFirst then return true
    else if b = 0x2c then do
      advance
      skipBlanks
      match ← peek? with
      | none => stopAhead .endInValue
      | some b => if b = 0x5d then stopAhead .trailingComma else return true
    else stopAhead .expectedListCommaOrEnd

/-- Whether another member follows; if so, goes to its name. -/
def nextMember (isFirst : Bool) : Reader Bool := do
  skipBlanks
  match ← peek? with
  | none => stopAhead .endInObject
  | some b =>
    if b = 0x7d then return false
    else if isFirst then
      if b = Quoted.quoteByte then return true else stopAhead .nameNotString
    else if b = 0x2c then do
      advance
      skipBlanks
      match ← peek? with
      | none => stopAhead .endInValue
      | some b =>
        if b = Quoted.quoteByte then return true
        else if b = 0x7d then stopAhead .trailingComma
        else stopAhead .nameNotString
    else stopAhead .expectedObjectCommaOrEnd

/-- Goes from the name of a member to its value. -/
def colon : Reader Unit := do
  skipBlanks
  match ← peek? with
  | none => stopAhead .endInObject
  | some b => if b = 0x3a then advance else stopAhead .expectedColon

/-- Reads items up to the end of the array. The first argument bounds their number. -/
def readItems (item : Reader Value) : Nat → Bool → Reader (List Value)
  | 0, _ => stop .endInList
  | steps + 1, isFirst => do
    if ← nextItem isFirst then
      let value ← item
      let values ← readItems item steps false
      return value :: values
    else return []

/-- Reads the name of a member. -/
def readName : Reader String := do
  advance
  Quoted.read

/-- Reads members with any names up to the end of the object. The first argument bounds their
    number. -/
def readMembers (member : Reader Value) : Nat → Bool → Reader (List (String × Value))
  | 0, _ => stop .endInObject
  | steps + 1, isFirst => do
    if ← nextMember isFirst then
      let name ← readName
      colon
      let value ← member
      let values ← readMembers member steps false
      return (name, value) :: values
    else return []

/-- Reads an array after its first byte was seen. -/
def readList (item : Reader Value) : Reader (List Value) := do
  advance
  closing (fun text => readItems item (text.length + 1) true text) endList

/-- Reads an array of exactly two values after its first byte was seen. -/
def readPair (expected : String) (first second : Reader Value) : Reader Value := do
  advance
  closing
    (do
      let length (n : Nat) : Reader Value := refuse (.invalidLength n expected)
      if ← nextItem true then
        let x ← first
        if ← nextItem false then
          let y ← second
          return .array [x, y]
        else length 1
      else length 0)
    endList

/-- Reads an object after its first byte was seen. -/
def readObject (member : Reader Value) : Reader (List (String × Value)) := do
  advance
  closing (fun text => readMembers member (text.length + 1) true text) endObject

/-- Refuses a value of another type than the one wanted. -/
def misfit {α : Type} (expected : String) : Reader α := do
  let refuseAs (found : String) : Reader α := refuse (.invalidType found expected)
  match ← peek? with
  | none => stopAhead .expectedValue
  | some b =>
    if b = 0x6e then do advance; word (Text.bytes "ull"); refuseAs "null"
    else if b = 0x74 then do advance; word (Text.bytes "rue"); refuseAs "boolean `true`"
    else if b = 0x66 then do advance; word (Text.bytes "alse"); refuseAs "boolean `false`"
    else if Number.isStart b then do
      let number ← Number.read
      refuseAs number.describe
    else if b = Quoted.quoteByte then do
      advance
      let s ← Quoted.read
      refuseAs ("string " ++ Text.inspect s)
    else if b = 0x5b then refuseAs "sequence"
    else if b = 0x7b then refuseAs "map"
    else stopAhead .expectedValue

/-- Reads a value that starts with a wanted byte, and refuses any other. -/
def expecting {α : Type} (expected : String) (wanted : UInt8 → Bool) (reader : Reader α) :
    Reader α := do
  skipBlanks
  placed do
    match ← peek? with
    | none => stopAhead .endInValue
    | some b => if wanted b then reader else misfit expected

/-- How deeply containers may be nested in a text. -/
abbrev nestingLimit : Nat := 127

/-- Reads a container where a number of containers may still be opened; what is inside of it is left
    with one less. -/
def nested {α : Type} : Nat → (Nat → Reader α) → Reader α
  | 0, _ => stopAhead .nestedTooDeep
  | depth + 1, container => container depth

/-- Reads a string. -/
def readString (expected : String) : Reader String :=
  expecting expected (· == Quoted.quoteByte) do advance; Quoted.read

/-- Reads a whole text. Blanks around the value are allowed, anything else is not. -/
def readWhole (value : Reader Value) (text : Bytes) : Except Failure Value :=
  match value text with
  | .error failure => .error failure
  | .ok (value, rest) =>
    match rest.dropWhile isBlank with
    | [] => .ok value
    | b :: rest => .error ⟨.trailingCharacters, some rest.length, b :: rest⟩

/-- The name that the first member of an object has if the object stands for the value of a text,
    which is then its only member. -/
def embeddingName : String := "$serde_json::private::RawValue"

/-- Reads the value of a text that is given as a string. -/
def readEmbedded (ofText : Bytes → Except Failure Value) : Reader Value := do
  let text := Text.bytes (← readString "raw value")
  match ofText text with
  | .ok value => return value
  | .error failure => refuse (.embedded (failure.message text))

/-- Reads an object of any members after its first byte was seen, or the value of the text that it
    stands for. -/
def readAnyObject (member : Reader Value) (ofText : Bytes → Except Failure Value) :
    Reader Value := do
  advance
  closing
    (do
      if ← nextMember true then
        let name ← readName
        colon
        if name = embeddingName then readEmbedded ofText
        else
          let value ← member
          let members ← fun text => readMembers member (text.length + 1) false text
          return .ofMembers ((name, value) :: members)
      else return .object [])
    endObject

/-- Reads a value of any type. Containers may be nested to a depth that `inner` stands for: it
    reads what is inside of one, and there is none at the greatest depth. -/
def readAnyWith (ofText : Bytes → Except Failure Value) (inner : Option (Reader Value)) :
    Reader Value := do
  skipBlanks
  placed do
    match ← peek? with
    | none => stopAhead .endInValue
    | some b =>
      if b = 0x6e then do advance; word (Text.bytes "ull"); return .null
      else if b = 0x74 then do advance; word (Text.bytes "rue"); return .bool true
      else if b = 0x66 then do advance; word (Text.bytes "alse"); return .bool false
      else if Number.isStart b then return .ofNumber (← Number.read)
      else if b = Quoted.quoteByte then do advance; return .string (← Quoted.read)
      else if b = 0x5b then
        match inner with
        | none => stopAhead .nestedTooDeep
        | some inner => return .array (← readList inner)
      else if b = 0x7b then
        match inner with
        | none => stopAhead .nestedTooDeep
        | some inner => readAnyObject inner ofText
      else stopAhead .expectedValue

/-- Reads a value of any type with containers nested to a given depth at most. -/
def readAnyTo (ofText : Bytes → Except Failure Value) : Nat → Reader Value
  | 0 => readAnyWith ofText none
  | depth + 1 => readAnyWith ofText (some (readAnyTo ofText depth))

/-- Decodes a text within a text as a value of any type; its containers are counted anew. Each is
    shorter than the one around it, so that the first argument, a bound on their number, is never
    used up. -/
def ofEmbedded : Nat → Bytes → Except Failure Value
  | 0, text => .error ⟨.endInValue, none, text⟩
  | layers + 1, text => readWhole (readAnyTo (ofEmbedded layers) nestingLimit) text

/-- Reads a value of any type where a number of containers may still be opened. -/
def readAny (depth : Nat) : Reader Value := fun text =>
  readAnyTo (ofEmbedded text.length) depth text

namespace Shape

/-- Unsigned integers of 8 bits. -/
abbrev u8 : Shape := .int "u8" 0 255

/-- Unsigned integers of 32 bits. -/
abbrev u32 : Shape := .int "u32" 0 4294967295

/-- Unsigned integers of 64 bits. -/
abbrev u64 : Shape := .int "u64" 0 18446744073709551615

/-- Signed integers of 64 bits. -/
abbrev i64 : Shape := .int "i64" (-9223372036854775808) 9223372036854775807

/-- A shape in the wording of a refusal. -/
def expected : Shape → String
  | unit => "unit"
  | bool => "a boolean"
  | int name _ _ => name
  | string => "a string"
  | option inner => inner.expected
  | list _ => "a sequence"
  | pair .. => "a tuple of size 2"
  | map _ => "a map"
  | any | raw => "any valid JSON value"

/-- The integer that a number is, if it is one between the bounds. -/
def integer (name : String) (low high : Int) (number : Number) : Reader Value :=
  match number.toInt? with
  | none => refuse (.invalidType number.describe name)
  | some i =>
    if low ≤ i ∧ i ≤ high then return .int i else refuse (.invalidValue number.describe name)

/-- Reads a value of a shape where a number of containers may still be opened. -/
def read : Shape → Nat → Reader Value
  | unit, _ =>
    expecting unit.expected (· == 0x6e) do advance; word (Text.bytes "ull"); return .null
  | bool, _ =>
    expecting bool.expected (fun b => b == 0x74 || b == 0x66) do
      if (← peek?) = some 0x74 then do advance; word (Text.bytes "rue"); return .bool true
      else do advance; word (Text.bytes "alse"); return .bool false
  | int name low high, _ =>
    expecting name Number.isStart do integer name low high (← Number.read)
  | string, _ =>
    return .string (← readString string.expected)
  | option inner, depth => do
    skipBlanks
    if (← peek?) = some 0x6e then do advance; word (Text.bytes "ull"); return .null
    else inner.read depth
  | list item, depth =>
    expecting (list item).expected (· == 0x5b) <| nested depth fun depth =>
      return .array (← readList (item.read depth))
  | pair first second, depth =>
    expecting (pair first second).expected (· == 0x5b) <| nested depth fun depth =>
      readPair (pair first second).expected (first.read depth) (second.read depth)
  | map value, depth =>
    expecting (map value).expected (· == 0x7b) <| nested depth fun depth =>
      return .ofMembers (← readObject (value.read depth))
  | any, depth => readAny depth
  | raw, _ => return .raw (← readRaw)

end Shape

namespace Field

/-- What stands for a field that an object leaves out: its default, or null if it is optional. -/
def missing? (field : Field) : Option Value :=
  field.default?.or <|
    match field.shape with
    | .option _ => some .null
    | _ => none

/-- Reads the members of a struct up to the end of the object, each with `depth` containers that may
    be opened. The first argument bounds their number, the last holds the fields found so far. -/
def readMembers (fields : List Field) (depth : Nat) :
    Nat → Bool → List (String × Value) → Reader (List (String × Value))
  | 0, _, _ => stop .endInObject
  | steps + 1, isFirst, found => do
    if ← nextMember isFirst then
      let name ← readName
      match fields.find? fun field => field.name == name with
      | some field =>
        if (found.lookup name).isSome then refuse (.duplicateField name)
        else
          colon
          let value ← field.shape.read depth
          readMembers fields depth steps false ((name, value) :: found)
      | none =>
        colon
        skipValue
        readMembers fields depth steps false found
    else return found

/-- The fields in declaration order, each as found or as what stands for it. -/
def complete (found : List (String × Value)) : List Field → Reader (List (String × Value))
  | [] => return []
  | field :: fields => do
    match (found.lookup field.name).or field.missing? with
    | none => refuse (.missingField field.name)
    | some value =>
      let values ← complete found fields
      return (field.name, value) :: values

/-- Reads fields from the items of an array, each with `depth` containers that may be opened;
    `expected` is the refusal of an array that ends early. -/
def readItems (expected : String) (depth : Nat) : Nat → List Field → Reader (List (String × Value))
  | _, [] => return []
  | index, field :: fields => do
    if ← nextItem (index == 0) then
      let value ← field.shape.read depth
      let values ← readItems expected depth (index + 1) fields
      return (field.name, value) :: values
    else
      match field.default? with
      | none => refuse (.invalidLength index expected)
      | some value =>
        let values ← readItems expected depth (index + 1) fields
        return (field.name, value) :: values

end Field

namespace Form

/-- A struct in the wording of a refusal that counts its fields. -/
def withElements (name : String) (count : Nat) : String :=
  "struct " ++ name ++ " with " ++ toString count ++ (if count = 1 then " element" else " elements")

/-- Reads a struct after its first byte was seen; it becomes an object of its fields in declaration
    order. -/
def readStruct (name : String) (fields : List Field) (depth : Nat) : Reader Value := do
  if (← peek?) = some 0x5b then
    advance
    let expected := withElements name fields.length
    return .object (← closing (Field.readItems expected depth 0 fields) endList)
  else
    advance
    return .object (← closing
      (do
        let found ← fun text => Field.readMembers fields depth (text.length + 1) true [] text
        Field.complete found fields)
      endObject)

/-- Reads a value of a form. -/
def read : Form → Reader Value
  | plain shape => shape.read nestingLimit
  | struct name fields =>
    expecting ("struct " ++ name) (fun b => b == 0x5b || b == 0x7b) <|
      nested nestingLimit (readStruct name fields)

/-- Decodes a whole text as a form. Blanks around the value are allowed, anything else is not. -/
def decode (form : Form) (text : Bytes) : Except Failure Value := readWhole form.read text

/-- Decodes a whole text as a form; a refusal is given in words. -/
def decodeText (form : Form) (text : Bytes) : Except String Value :=
  (form.decode text).mapError fun failure => failure.message text

/-- Decodes a whole text as a form, if it is accepted. -/
def decode? (form : Form) (text : Bytes) : Option Value := (form.decode text).toOption

end Form

end Provision.Json
