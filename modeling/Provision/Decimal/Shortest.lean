/-! # The shortest decimal of a binary number

A binary floating-point number of 64 bits stands for all reals that round to it. Its shortest
decimal is, among the decimals with the fewest digits that do so, the one nearest to the number
itself. It is written with the point in place unless it is very large or very small. -/

namespace Provision.Decimal

/-- A positive binary number, `mantissa * 2 ^ exponent`. -/
structure Binary where
  mantissa : Nat
  exponent : Int
  /-- Whether the gap to the next smaller number is half the gap to the next larger one. -/
  narrowBelow : Bool

/-- The magnitude of a finite number of 64 bits. -/
def Binary.ofBits (bits : UInt64) : Binary :=
  let exponent := ((bits >>> 52) &&& 0x7ff).toNat
  let fraction := (bits &&& 0xfffffffffffff).toNat
  if exponent = 0 then ⟨fraction, -1074, false⟩
  else ⟨Nat.pow 2 52 + fraction, exponent - 1075, fraction = 0 && 1 < exponent⟩

/-- A decimal, `digits * 10 ^ exponent`. -/
structure Scientific where
  digits : Nat
  exponent : Int
  deriving DecidableEq, Repr

namespace Binary

/-- What the mantissa is multiplied by in the exact decimal of the number. -/
def scale (x : Binary) : Nat :=
  if 0 ≤ x.exponent then Nat.pow 2 x.exponent.toNat else Nat.pow 5 (-x.exponent).toNat

/-- The exact decimal of the number. -/
def exact (x : Binary) : Scientific := ⟨x.mantissa * x.scale, min x.exponent 0⟩

/-- Whether a number of units of the exact decimal lies among the reals that round to `x`: no
    farther than half the gap, and at exactly half only if the mantissa is even. -/
def roundsTo (x : Binary) (units : Nat) : Bool :=
  let low := (if x.narrowBelow then 4 * x.mantissa - 1 else 4 * x.mantissa - 2) * x.scale
  let high := (4 * x.mantissa + 2) * x.scale
  if x.mantissa % 2 = 0 then low ≤ 4 * units && 4 * units ≤ high
  else low < 4 * units && 4 * units < high

/-- The decimal with this many digits fewer than the exact one that rounds to `x` and is nearest
    to it, if there is one. -/
def without (x : Binary) (cut : Nat) : Option Scientific :=
  let unit := Nat.pow 10 cut
  let below := x.exact.digits / unit
  let exponent := x.exact.exponent + cut
  let lower := x.roundsTo (below * unit)
  let upper := x.roundsTo ((below + 1) * unit)
  let rest := x.exact.digits % unit
  if lower && (!upper || 2 * rest < unit || (2 * rest = unit && below % 2 = 0)) then
    some ⟨below, exponent⟩
  else if upper then some ⟨below + 1, exponent⟩
  else none

/-- Number of decimal digits of a number. -/
def width (n : Nat) : Nat := (Nat.toDigits 10 n).length

/-- The shortest decimal that rounds to `x`. -/
def shortest (x : Binary) : Scientific :=
  let width := width x.exact.digits
  ((List.range 17).findSome? fun kept => x.without (width - (kept + 1))).getD x.exact

end Binary

/-- The digits of a number without the zeros at their end; gives the number of those as well. -/
def stripZeros (digits : List Char) : List Char × Nat :=
  let kept := (digits.reverse.dropWhile (· == '0')).reverse
  (kept, digits.length - kept.length)

/-- An exponent with its sign. -/
def exponentText (e : Int) : String := (if e < 0 then "-" else "+") ++ toString e.natAbs

/-- A decimal with the point in place when the leading digit stands at most five places behind
    it or fifteen in front of the last place before it, else with an exponent. -/
def Scientific.layout (d : Scientific) : String :=
  let (digits, zeros) := stripZeros (Nat.toDigits 10 d.digits)
  let size := digits.length
  let lead : Int := d.exponent + zeros + size - 1
  if -5 ≤ lead ∧ lead ≤ 15 then
    if lead < 0 then
      "0." ++ String.ofList (List.replicate (-lead - 1).toNat '0' ++ digits)
    else
      let whole := lead.toNat + 1
      if size ≤ whole then String.ofList (digits ++ List.replicate (whole - size) '0') ++ ".0"
      else String.ofList (digits.take whole) ++ "." ++ String.ofList (digits.drop whole)
  else
    String.ofList (digits.take 1) ++ (if size ≤ 1 then "" else ".") ++
      String.ofList (digits.drop 1) ++ "e" ++ exponentText lead

/-- A finite number of 64 bits, written by its shortest decimal. -/
def ofFloat (x : Float) : String :=
  let binary := Binary.ofBits x.toBits
  (if x.toBits >>> 63 = 1 then "-" else "") ++
    if binary.mantissa = 0 then "0.0" else binary.shortest.layout

end Provision.Decimal
