import Provision.Text.Bytes
import Provision.Text.Inspect

/-! # Reading JSON texts

A reader takes a value from the front of a text and leaves what follows it. A text that is not
accepted is refused with a cause and a place. The place is the number of bytes left behind it;
a refusal of a value that is well written but not wanted gets its place from the reader that
asked for the value. -/

namespace Provision.Json

/-- Why a text is refused. -/
inductive Cause where
  /-- A value of another type stands there. -/
  | invalidType (found expected : String)
  /-- A value of the type is out of its range. -/
  | invalidValue (found expected : String)
  /-- An array ends after too few items. -/
  | invalidLength (length : Nat) (expected : String)
  | missingField (name : String)
  | duplicateField (name : String)
  | endInList
  | endInObject
  | endInString
  | endInValue
  | expectedColon
  | expectedListCommaOrEnd
  | expectedObjectCommaOrEnd
  | expectedWord
  | expectedValue
  | invalidEscape
  | invalidNumber
  | numberOutOfRange
  | invalidCodePoint
  | controlCharacter
  | nameNotString
  | loneSurrogate
  | trailingComma
  | trailingCharacters
  | endOfHexEscape
  | nestedTooDeep
  /-- A text within the text is refused, in these words. -/
  | embedded (wording : String)
  deriving DecidableEq, Repr

/-- The wording of a cause. -/
def Cause.message : Cause → String
  | invalidType found expected => "invalid type: " ++ found ++ ", expected " ++ expected
  | invalidValue found expected => "invalid value: " ++ found ++ ", expected " ++ expected
  | invalidLength length expected =>
    "invalid length " ++ toString length ++ ", expected " ++ expected
  | missingField name => "missing field `" ++ name ++ "`"
  | duplicateField name => "duplicate field `" ++ name ++ "`"
  | endInList => "EOF while parsing a list"
  | endInObject => "EOF while parsing an object"
  | endInString => "EOF while parsing a string"
  | endInValue => "EOF while parsing a value"
  | expectedColon => "expected `:`"
  | expectedListCommaOrEnd => "expected `,` or `]`"
  | expectedObjectCommaOrEnd => "expected `,` or `\x7d`"
  | expectedWord => "expected ident"
  | expectedValue => "expected value"
  | invalidEscape => "invalid escape"
  | invalidNumber => "invalid number"
  | numberOutOfRange => "number out of range"
  | invalidCodePoint => "invalid unicode code point"
  | controlCharacter => "control character (\\u0000-\\u001F) found while parsing a string"
  | nameNotString => "key must be a string"
  | loneSurrogate => "lone leading surrogate in hex escape"
  | trailingComma => "trailing comma"
  | trailingCharacters => "trailing characters"
  | endOfHexEscape => "unexpected end of hex escape"
  | nestedTooDeep => "recursion limit exceeded"
  | embedded wording => wording

/-- A refused text: the cause, how many bytes are left behind the place if it is known, and what
    had not been read. -/
structure Failure where
  cause : Cause
  place? : Option Nat
  rest : Bytes
  deriving DecidableEq, Repr

/-- The line of the last of some bytes and its column there, both as shown to people: a line
    break ends a line, and the column counts the bytes behind it. -/
def position (consumed : Bytes) : Nat × Nat :=
  (1 + consumed.count 0x0a, (consumed.reverse.takeWhile (· != 0x0a)).length)

/-- The wording of a refusal of `text`. That of a text within it says already where. -/
def Failure.message (failure : Failure) (text : Bytes) : String :=
  match failure.cause with
  | .embedded wording => wording
  | cause =>
    let left := failure.place?.getD failure.rest.length
    let (line, column) := position (text.take (text.length - left))
    cause.message ++ " at line " ++ toString line ++ " column " ++ toString column

/-- Takes a value from the front of a text. -/
abbrev Reader := StateT Bytes (Except Failure)

namespace Reader

/-- Refuses at the place reached. -/
def stop {α : Type} (cause : Cause) : Reader α := fun rest =>
  .error ⟨cause, some rest.length, rest⟩

/-- Refuses the next byte, or the end of the text. -/
def stopAhead {α : Type} (cause : Cause) : Reader α := fun rest =>
  .error ⟨cause, some (rest.length - 1), rest⟩

/-- Refuses a value; the place is left to the reader that asked for it. -/
def refuse {α : Type} (cause : Cause) : Reader α := fun rest => .error ⟨cause, none, rest⟩

/-- Gives a refusal without a place the place reached. -/
def placed {α : Type} (reader : Reader α) : Reader α := fun text =>
  match reader text with
  | .ok result => .ok result
  | .error failure =>
    .error { failure with place? := failure.place?.or (some failure.rest.length) }

/-- Reads the end of a container after its content, even if the content was refused; then the
    refusal of the content counts. -/
def closing {α : Type} (content : Reader α) (ending : Reader Unit) : Reader α := fun text =>
  match content text with
  | .ok (value, rest) =>
    match ending rest with
    | .ok (_, rest) => .ok (value, rest)
    | .error failure => .error failure
  | .error failure =>
    match ending failure.rest with
    | .ok (_, rest) => .error { failure with rest }
    | .error later => .error { failure with rest := later.rest }

/-- Whether a byte is insignificant between tokens. -/
def isBlank (b : UInt8) : Bool := b == 0x20 || b == 0x09 || b == 0x0a || b == 0x0d

/-- Leaves out blanks. -/
def skipBlanks : Reader Unit := fun text => .ok ((), text.dropWhile isBlank)

/-- The next byte, which is not taken. -/
def peek? : Reader (Option UInt8) := fun text => .ok (text.head?, text)

/-- Takes the next byte. -/
def advance : Reader Unit := fun text => .ok ((), text.tail)

/-- Takes the rest of a word whose start has been seen. -/
def word : Bytes → Reader Unit
  | [], rest => .ok ((), rest)
  | _ :: _, [] => stop .endInValue []
  | expected :: more, b :: rest =>
    if b = expected then word more rest else stop .expectedWord rest

end Reader

end Provision.Json
