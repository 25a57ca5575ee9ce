import Provision.Decimal.Shortest
import Provision.Json.Reader

/-! # Numbers

A number is an optional minus sign, a whole part without leading zeros, and optionally a fraction
and an exponent. One without fraction and exponent is an integer if it fits into 64 bits; minus
zero is none. Any other number is taken as a floating-point number. -/

namespace Provision.Json

/-- A number as read. -/
inductive Number where
  /-- An integer that is not negative. -/
  | natural (magnitude : Nat)
  /-- A negative integer. -/
  | negative (magnitude : Nat)
  /-- Any other number. -/
  | float (value : Float)

namespace Number

/-- A number in the wording of a refusal. -/
def describe : Number → String
  | natural n => "integer `" ++ toString n ++ "`"
  | negative n => "integer `-" ++ toString n ++ "`"
  | float x => "floating point `" ++ Decimal.ofFloat x ++ "`"

/-- The integer that a number is, if it is one. -/
def toInt? : Number → Option Int
  | natural n => some n
  | negative n => some (-n)
  | float _ => none

/-- The literal of an integer. -/
def ofInt (i : Int) : Bytes := Text.bytes (toString i)

/-- The largest integer of 64 bits. -/
abbrev maxNatural : Nat := 18446744073709551615

/-- The largest magnitude of a negative integer of 64 bits. -/
abbrev maxNegative : Nat := 9223372036854775808

/-- Whether a byte is a decimal digit. -/
def isDigit (b : UInt8) : Bool := 0x30 ≤ b && b ≤ 0x39

/-- The value of a decimal digit. -/
def digitValue (b : UInt8) : Nat := b.toNat - 0x30

/-- The value of a sequence of digits. -/
def digitsValue (digits : Bytes) : Nat := digits.foldl (fun n d => n * 10 + digitValue d) 0

/-- The digits of a number that is not an integer, as many as fit into 64 bits, and the power of
    ten they are multiplied by. -/
structure Scaled where
  significand : Nat
  exponent : Int
  /-- Whether a digit was left out. -/
  full : Bool := false

namespace Scaled

/-- Adds a digit of the whole part. -/
def addWhole (s : Scaled) (d : UInt8) : Scaled :=
  if s.full then { s with exponent := s.exponent + 1 }
  else if s.significand * 10 + digitValue d > maxNatural then
    { s with exponent := s.exponent + 1, full := true }
  else { s with significand := s.significand * 10 + digitValue d }

/-- Adds a digit of the fraction. -/
def addFraction (s : Scaled) (d : UInt8) : Scaled :=
  if s.full then s
  else if s.significand * 10 + digitValue d > maxNatural then { s with full := true }
  else { s with significand := s.significand * 10 + digitValue d, exponent := s.exponent - 1 }

/-- The digits of a whole part and a fraction. -/
def ofDigits (whole fraction : Bytes) : Scaled :=
  let s := whole.foldl addWhole ⟨0, 0, false⟩
  fraction.foldl addFraction { s with full := false }

/-- A power of ten up to the largest that a floating-point number can be. -/
def power (n : Nat) : Float := Float.ofScientific 1 false n

/-- A number divided by a power of ten, in steps that fit; none is needed once it is zero. -/
def divide : Nat → Float → Nat → Float
  | 0, x, _ => x
  | steps + 1, x, n =>
    if n ≤ 308 then x / power n
    else if x == 0 then x
    else divide steps (x / power 308) (n - 308)

/-- The product of significand and power of ten, each rounded before it is formed, unless it is out
    of range. -/
def toFloat? (s : Scaled) (positive : Bool) : Option Float :=
  let x := s.significand.toUInt64.toFloat
  let signed (x : Float) : Option Float :=
    if x.isInf then none else some (if positive then x else -x)
  if 0 ≤ s.exponent then
    if s.exponent ≤ 308 then signed (x * power s.exponent.toNat)
    else if x == 0 then signed x
    else none
  else signed (divide 8 x (-s.exponent).toNat)

end Scaled

open Reader

/-- The longest exponent that is looked at; a longer one is out of range. -/
abbrev maxExponent : Nat := 2147483647

/-- The number of digits up to the first at which their value exceeds the longest exponent. -/
def overflow? (digits : Bytes) : Option Nat :=
  (List.range (digits.length + 1)).find? fun n => digitsValue (digits.take n) > maxExponent

/-- A number with these digits, or a refusal if it is out of range. -/
def ofScaled (s : Scaled) (positive : Bool) : Reader Number :=
  match s.toFloat? positive with
  | some x => return float x
  | none => stop .numberOutOfRange

/-- Reads the digits of an exponent and ends the number. -/
def readExponentDigits (positive : Bool) (s : Scaled) (raises : Bool) : Reader Number
  | [] => stop .endInValue []
  | d :: rest =>
    if isDigit d then
      let digits := d :: rest.takeWhile isDigit
      let rest := rest.dropWhile isDigit
      match overflow? digits with
      | some n =>
        if s.significand ≠ 0 ∧ raises then stop .numberOutOfRange (digits.drop n ++ rest)
        else .ok (float (if positive then 0 else -0), rest)
      | none =>
        let e : Int := digitsValue digits
        let exponent := if raises then s.exponent + e else s.exponent - e
        ofScaled { s with exponent } positive rest
    else stop .invalidNumber rest

/-- Reads an exponent after its letter and ends the number. -/
def readExponent (positive : Bool) (s : Scaled) : Reader Number
  | [] => stop .endInValue []
  | b :: rest =>
    if b = 0x2b then readExponentDigits positive s true rest
    else if b = 0x2d then readExponentDigits positive s false rest
    else readExponentDigits positive s true (b :: rest)

/-- Ends a number after its fraction. -/
def readAfterFraction (positive : Bool) (s : Scaled) : Reader Number
  | [] => ofScaled s positive []
  | b :: rest =>
    if b = 0x65 ∨ b = 0x45 then readExponent positive s rest
    else ofScaled s positive (b :: rest)

/-- The number that digits without fraction and exponent are. -/
def ofWhole (positive : Bool) (whole : Bytes) : Reader Number :=
  let n := digitsValue whole
  if positive ∧ n ≤ maxNatural then return natural n
  else if ¬positive ∧ n ≠ 0 ∧ n ≤ maxNegative then return negative n
  else ofScaled (.ofDigits whole []) positive

/-- Ends a number after its whole part. -/
def readAfterWhole (positive : Bool) (whole : Bytes) : Reader Number
  | [] => ofWhole positive whole []
  | b :: rest =>
    if b = 0x2e then
      let fraction := rest.takeWhile isDigit
      let rest := rest.dropWhile isDigit
      if fraction = [] then
        if rest = [] then stopAhead .endInValue rest else stopAhead .invalidNumber rest
      else readAfterFraction positive (.ofDigits whole fraction) rest
    else if b = 0x65 ∨ b = 0x45 then readExponent positive (.ofDigits whole []) rest
    else ofWhole positive whole (b :: rest)

/-- Reads a number after its sign. -/
def readUnsigned (positive : Bool) : Reader Number
  | [] => stop .endInValue []
  | b :: rest =>
    if b = 0x30 then
      if rest.head?.any isDigit then stopAhead .invalidNumber rest
      else readAfterWhole positive [b] rest
    else if isDigit b then
      readAfterWhole positive (b :: rest.takeWhile isDigit) (rest.dropWhile isDigit)
    else stop .invalidNumber rest

/-- Whether a byte can start a number. -/
def isStart (b : UInt8) : Bool := b == 0x2d || isDigit b

/-- Reads a number whose first byte can start one. -/
def read : Reader Number
  | [] => readUnsigned true []
  | b :: rest => if b = 0x2d then readUnsigned false rest else readUnsigned true (b :: rest)

/-- Leaves out the digits of an exponent. -/
def skipExponentDigits : Reader Unit
  | [] => stop .invalidNumber []
  | d :: rest => if isDigit d then .ok ((), rest.dropWhile isDigit) else stop .invalidNumber rest

/-- Leaves out an exponent after its letter. -/
def skipExponent : Reader Unit
  | [] => skipExponentDigits []
  | b :: rest => skipExponentDigits (if b = 0x2b ∨ b = 0x2d then rest else b :: rest)

/-- Leaves out an exponent, if there is one. -/
def skipAfterFraction : Reader Unit
  | [] => .ok ((), [])
  | b :: rest => if b = 0x65 ∨ b = 0x45 then skipExponent rest else .ok ((), b :: rest)

/-- Leaves out what follows the whole part of a number. -/
def skipAfterWhole : Reader Unit
  | [] => .ok ((), [])
  | b :: rest =>
    if b = 0x2e then
      if rest.head?.any isDigit then skipAfterFraction (rest.dropWhile isDigit)
      else stopAhead .invalidNumber rest
    else skipAfterFraction (b :: rest)

/-- Leaves out a number after its sign. -/
def skipUnsigned : Reader Unit
  | [] => stop .invalidNumber []
  | b :: rest =>
    if b = 0x30 then
      if rest.head?.any isDigit then stopAhead .invalidNumber rest else skipAfterWhole rest
    else if isDigit b then skipAfterWhole (rest.dropWhile isDigit)
    else stop .invalidNumber rest

/-- Leaves out a number whose first byte can start one. -/
def skip : Reader Unit
  | [] => skipUnsigned []
  | b :: rest => skipUnsigned (if b = 0x2d then rest else b :: rest)

end Number

end Provision.Json
