import Provision.Json.Reader

/-! # Quoted strings

A string is written between quotes. The quote itself, the backslash and the control characters
are written as escapes, every other byte stands for itself. Reading accepts every escape of the
format; a surrogate is accepted only as half of a pair, and what the string stands for has to be
valid UTF-8. A string that nobody asks for is only checked for its escapes. -/

namespace Provision.Json.Quoted

/-- The byte that opens and closes a string. -/
abbrev quoteByte : UInt8 := 0x22

/-- The byte that starts an escape. -/
abbrev backslash : UInt8 := 0x5c

/-- The letter of an escape by number. -/
abbrev letterU : UInt8 := 0x75

/-- The digit of a value below sixteen, in lower case. -/
def hexDigit (n : UInt8) : UInt8 := if n < 10 then 0x30 + n else 0x57 + n

/-- The value of a hexadecimal digit of either case. -/
def hexValue? (b : UInt8) : Option Nat :=
  if 0x30 ≤ b ∧ b ≤ 0x39 then some (b.toNat - 0x30)
  else if 0x61 ≤ b ∧ b ≤ 0x66 then some (b.toNat - 0x57)
  else if 0x41 ≤ b ∧ b ≤ 0x46 then some (b.toNat - 0x37)
  else none

/-- The value of four hexadecimal digits. -/
def hexQuad? (a b c d : UInt8) : Option Nat := do
  let a ← hexValue? a
  let b ← hexValue? b
  let c ← hexValue? c
  let d ← hexValue? d
  return a * 4096 + b * 256 + c * 16 + d

/-- The byte that an escape of one letter stands for. -/
def ofEscape? (b : UInt8) : Option UInt8 :=
  if b = quoteByte then some quoteByte
  else if b = backslash then some backslash
  else if b = 0x2f then some 0x2f
  else if b = 0x62 then some 0x08
  else if b = 0x66 then some 0x0c
  else if b = 0x6e then some 0x0a
  else if b = 0x72 then some 0x0d
  else if b = 0x74 then some 0x09
  else none

/-- How one byte is written inside a string. -/
def escapeByte (b : UInt8) : Bytes :=
  if b = quoteByte then [backslash, quoteByte]
  else if b = backslash then [backslash, backslash]
  else if b = 0x08 then [backslash, 0x62]
  else if b = 0x09 then [backslash, 0x74]
  else if b = 0x0a then [backslash, 0x6e]
  else if b = 0x0c then [backslash, 0x66]
  else if b = 0x0d then [backslash, 0x72]
  else if b < 0x20 then
    [backslash, letterU, 0x30, 0x30, hexDigit (b / 16), hexDigit (b % 16)]
  else [b]

/-- How a sequence of bytes is written inside a string. -/
def escape (b : Bytes) : Bytes := b.flatMap escapeByte

/-- A text written as a string, quotes included. -/
def encode (s : String) : Bytes := quoteByte :: (escape (Text.bytes s) ++ [quoteByte])

/-- Whether a code unit is the first half of a surrogate pair. -/
def isHighSurrogate (n : Nat) : Bool := 0xd800 ≤ n && n < 0xdc00

/-- Whether a code unit is the second half of a surrogate pair. -/
def isLowSurrogate (n : Nat) : Bool := 0xdc00 ≤ n && n < 0xe000

/-- The UTF-8 bytes of a code point. -/
def pointBytes (n : Nat) : Bytes := String.utf8EncodeChar (Char.ofNat n)

/-- The code point of a surrogate pair. -/
def pairPoint (high low : Nat) : Nat := 0x10000 + (high - 0xd800) * 1024 + (low - 0xdc00)

/-- Puts bytes in front of those that were read. -/
def prepend (front : Bytes) (read : Except Failure (Bytes × Bytes)) :
    Except Failure (Bytes × Bytes) :=
  read.map fun (body, rest) => (front ++ body, rest)

/-- Reads the bytes of a string after its opening quote, up to and with the closing one. -/
def readBytes : Reader Bytes
  | [] => Reader.stop .endInString []
  | b :: rest =>
    if b = quoteByte then .ok ([], rest)
    else if b = backslash then
      match rest with
      | [] => Reader.stop .endInString []
      | c :: rest =>
        if c = letterU then
          match rest with
          | h₁ :: h₂ :: h₃ :: h₄ :: rest =>
            match hexQuad? h₁ h₂ h₃ h₄ with
            | none => Reader.stop .invalidEscape rest
            | some n =>
              if isLowSurrogate n then Reader.stop .loneSurrogate rest
              else if isHighSurrogate n then
                match rest with
                | [] => Reader.stop .endInString []
                | [s] =>
                  if s = backslash then Reader.stop .endInString []
                  else Reader.stop .endOfHexEscape []
                | s :: u :: rest =>
                  if s ≠ backslash then Reader.stop .endOfHexEscape (u :: rest)
                  else if u ≠ letterU then Reader.stop .endOfHexEscape rest
                  else
                    match rest with
                    | l₁ :: l₂ :: l₃ :: l₄ :: rest =>
                      match hexQuad? l₁ l₂ l₃ l₄ with
                      | none => Reader.stop .invalidEscape rest
                      | some m =>
                        if isLowSurrogate m then
                          prepend (pointBytes (pairPoint n m)) (readBytes rest)
                        else Reader.stop .loneSurrogate rest
                    | _ => Reader.stop .endInString []
              else prepend (pointBytes n) (readBytes rest)
          | _ => Reader.stop .endInString []
        else
          match ofEscape? c with
          | none => Reader.stop .invalidEscape rest
          | some e => prepend [e] (readBytes rest)
    else if b < 0x20 then Reader.stop .controlCharacter rest
    else prepend [b] (readBytes rest)

/-- Reads a string after its opening quote. What it stands for may not be valid UTF-8; the refusal
    is then placed as many bytes before its end as follow the valid part. -/
def read : Reader String := fun text =>
  match readBytes text with
  | .error failure => .error failure
  | .ok (body, rest) =>
    match Text.ofBytes? body with
    | some s => .ok (s, rest)
    | none =>
      let invalid := body.length - Text.validLength body
      .error ⟨.invalidCodePoint, some (rest.length + invalid), rest⟩

/-- Leaves out a string after its opening quote. -/
def skip : Reader Unit
  | [] => Reader.stop .endInString []
  | b :: rest =>
    if b = quoteByte then .ok ((), rest)
    else if b = backslash then
      match rest with
      | [] => Reader.stop .endInString []
      | c :: rest =>
        if c = letterU then
          match rest with
          | h₁ :: h₂ :: h₃ :: h₄ :: rest =>
            if (hexQuad? h₁ h₂ h₃ h₄).isSome then skip rest else Reader.stop .invalidEscape rest
          | _ => Reader.stop .endInString []
        else if (ofEscape? c).isSome then skip rest
        else Reader.stop .invalidEscape rest
    else if b < 0x20 then Reader.stop .controlCharacter (b :: rest)
    else skip rest

end Provision.Json.Quoted
