import ImageConfig.Decimal.Shortest
import ImageConfig.Decimal.Scaled

/-!
# Numbers in JSON texts

A number keeps its digits as they stand in the text. Its value is an integer where it has neither
fraction nor exponent and fits into 64 bits, and a double otherwise; `-0` is a double too. Digits
that do not fit into a 64-bit significand are dropped, which is the precision of the value.
-/

namespace ImageConfig.Json

/-- A number as written. -/
structure Number where
  /-- Whether it begins with a minus sign. -/
  negative : Bool := false
  /-- Digits before the point. -/
  whole : List Nat := []
  /-- Digits after the point. -/
  fraction : List Nat := []
  /-- Whether the exponent is negative, and its digits. -/
  exponent : Option (Bool × List Nat) := none
deriving DecidableEq

/-- The value of a number. -/
inductive Numeral where
  /-- An integer of 64 bits. -/
  | integer (value : Int)
  /-- A finite double. -/
  | floating (value : Float)

/-- The value of digits in base ten. -/
def ofDigits (digits : List Nat) : Nat := digits.foldl (fun value digit => value * 10 + digit) 0

/-- A significand of at most 64 bits with an exponent of ten. -/
structure Significand where
  /-- The digits kept, as one number. -/
  value : Nat := 0
  /-- Exponent of ten. -/
  exponent : Int := 0
  /-- Whether a digit has not fitted any more. -/
  full : Bool := false

namespace Significand

/-- The significand with one more digit, or full if the digit does not fit. -/
def push (significand : Significand) (digit : Nat) : Significand :=
  let value := significand.value * 10 + digit
  if significand.full || UInt64.size ≤ value then { significand with full := true }
  else { significand with value }

/-- The significand with one more digit before the point. -/
def pushWhole (significand : Significand) (digit : Nat) : Significand :=
  let pushed := significand.push digit
  if pushed.full then { pushed with exponent := pushed.exponent + 1 } else pushed

/-- The significand with one more digit after the point. -/
def pushFraction (significand : Significand) (digit : Nat) : Significand :=
  let pushed := significand.push digit
  if pushed.full then pushed else { pushed with exponent := pushed.exponent - 1 }

end Significand

namespace Number

/-- The exponent as written. -/
def writtenExponent (number : Number) : Int :=
  match number.exponent with
  | none => 0
  | some (negative, digits) => if negative then -(ofDigits digits) else ofDigits digits

/-- The digits as a significand. Fraction digits are tried afresh after the whole part. -/
def significand (number : Number) : Significand :=
  let whole := number.whole.foldl Significand.pushWhole {}
  number.fraction.foldl Significand.pushFraction { whole with full := false }

/-- The number as a double, unless it is too large for one. -/
def double? (number : Number) : Option Float :=
  let significand := number.significand
  let magnitude := Decimal.scaled? significand.value.toUInt64
    (significand.exponent + number.writtenExponent)
  magnitude.map fun value => if number.negative then -value else value

/-- The value of the number, unless it is too large for a double. -/
def numeral? (number : Number) : Option Numeral :=
  let whole := ofDigits number.whole
  if number.fraction.isEmpty && number.exponent.isNone then
    if number.negative then
      if 0 < whole ∧ 2 * whole ≤ UInt64.size then some (.integer (-(whole : Int)))
      else number.double?.map .floating
    else if whole < UInt64.size then some (.integer whole)
    else number.double?.map .floating
  else number.double?.map .floating

/-- The digits of a list as text. -/
def digitText (digits : List Nat) : List Char := digits.map Nat.digitChar

/-- The number as text. -/
def text (number : Number) : List Char :=
  (if number.negative then ['-'] else []) ++ digitText number.whole ++
    (if number.fraction.isEmpty then [] else '.' :: digitText number.fraction) ++
    match number.exponent with
    | none => []
    | some (negative, digits) =>
      'e' :: (if negative then ['-'] else []) ++ digitText digits

end Number

/-- An exponent of ten with its mark and its sign, which is never left out. -/
def exponentText (exponent : Int) : List Char :=
  'e' :: (if exponent < 0 then '-' else '+') :: Nat.toDigits 10 exponent.natAbs

/-- A positive decimal with a point or an exponent. The point stands inside or beside the digits
for magnitudes from `10 ^ -5` up to `10 ^ 16`, beyond them an exponent follows the digits, of which
the first one stands before the point. -/
def decimalText (decimal : Decimal) : List Char :=
  let digits := Nat.toDigits 10 decimal.digits
  let magnitude := (digits.length : Int) + decimal.exponent
  if 0 ≤ decimal.exponent ∧ magnitude ≤ 16 then
    digits ++ List.replicate decimal.exponent.toNat '0' ++ ['.', '0']
  else if 0 < magnitude ∧ magnitude ≤ 16 then
    digits.take magnitude.toNat ++ '.' :: digits.drop magnitude.toNat
  else if -5 < magnitude ∧ magnitude ≤ 0 then
    '0' :: '.' :: List.replicate (-magnitude).toNat '0' ++ digits
  else
    let lead := digits.take 1
    let rest := digits.drop 1
    lead ++ (if rest.isEmpty then [] else '.' :: rest) ++ exponentText (magnitude - 1)

/-- A finite double as the shortest text that reads back as it. -/
def floatText (value : Float) : String :=
  let sign := if value.toBits >>> 63 = 1 then "-" else ""
  if value == 0 then sign ++ "0.0"
  else sign ++ String.ofList (decimalText (Binary.ofFloat value.abs).shortest)

/-- The value of a number as reports name it. -/
def Numeral.describe : Numeral → String
  | integer value => "integer `" ++ toString value ++ "`"
  | floating value => "floating point `" ++ floatText value ++ "`"

end ImageConfig.Json
