/-!
# Shortest decimal of a double

A positive finite double is `significand · 2 ^ exponent`. Every real number between its midpoints
to the two neighbouring doubles reads back as this double, the midpoints themselves if the
significand is even. The shortest decimal is the one of fewest digits in that interval, and of
those the nearest to the double, the even one of two equally near. For each number of digits only
the two neighbours of the double on the decimal grid can be it, and they are compared exactly, in
natural numbers.
-/

namespace ImageConfig

/-- A positive double, as `significand · 2 ^ exponent`. -/
structure Binary where
  /-- Significand. -/
  significand : Nat
  /-- Exponent of two. -/
  exponent : Int
  /-- Whether the next smaller double is nearer than the next larger one. -/
  atPowerOfTwo : Bool

/-- The parts of a positive finite double. -/
def Binary.ofFloat (value : Float) : Binary :=
  let bits := value.toBits
  let biased := ((bits >>> 52) &&& 0x7FF).toNat
  let fraction := (bits &&& 0xFFFFFFFFFFFFF).toNat
  if biased = 0 then ⟨fraction, -1074, false⟩
  else ⟨fraction + 0x10000000000000, (biased : Int) - 1075, fraction == 0 && 1 < biased⟩

/-- How many decimal digits a number has. -/
def digitCount (number : Nat) : Nat := (Nat.toDigits 10 number).length

/-- A decimal, `digits · 10 ^ exponent`. -/
structure Decimal where
  /-- All digits as one number. -/
  digits : Nat
  /-- Exponent of ten. -/
  exponent : Int
deriving DecidableEq

/-- The same decimal without a zero at its end, which the next number on a grid may have. -/
def Decimal.carried (decimal : Decimal) : Decimal :=
  if decimal.digits % 10 = 0 then ⟨decimal.digits / 10, decimal.exponent + 1⟩ else decimal

namespace Binary

/-- Numerator and denominator of a quarter of the double, in units of `10 ^ exponent`. -/
def quarter (binary : Binary) (exponent : Int) : Nat × Nat :=
  let shift := binary.exponent - 2
  (Nat.pow 2 shift.toNat * Nat.pow 10 (-exponent).toNat,
    Nat.pow 2 (-shift).toNat * Nat.pow 10 exponent.toNat)

/-- The position of the first decimal digit: the least power of ten above the double. -/
def magnitude (binary : Binary) : Int :=
  let (numerator, denominator) := binary.quarter (-400)
  (digitCount (4 * binary.significand * numerator / denominator) : Int) - 400

/-- The nearest decimal with at most `count` digits that reads back as the double. -/
def decimalOf? (binary : Binary) (count : Nat) : Option Decimal :=
  let exponent := binary.magnitude - count
  let (numerator, denominator) := binary.quarter exponent
  let value := 4 * binary.significand * numerator
  let low := (4 * binary.significand - if binary.atPowerOfTwo then 1 else 2) * numerator
  let high := (4 * binary.significand + 2) * numerator
  let closed := binary.significand % 2 == 0
  let inside := fun candidate : Nat =>
    let scaled := candidate * denominator
    (low < scaled && scaled < high) || (closed && (low == scaled || scaled == high))
  let below := value / denominator
  let above := below + 1
  let middle := (below + above) * denominator
  let nearerBelow := 2 * value < middle || (2 * value == middle && below % 2 == 0)
  let first := if nearerBelow then below else above
  let second := if nearerBelow then above else below
  if inside first then some (Decimal.carried ⟨first, exponent⟩)
  else if inside second then some (Decimal.carried ⟨second, exponent⟩)
  else none

/-- The decimal of fewest digits that reads back as the double; seventeen digits always do. -/
def shortest (binary : Binary) : Decimal :=
  let counts := (List.range 17).map (· + 1)
  (counts.findSome? binary.decimalOf?).getD ⟨0, 0⟩

end Binary

end ImageConfig
