/-!
# Scaling in doubles

A decimal text is read as a significand and a power of ten. The double it stands for is the
significand, rounded, multiplied or divided by the power, rounded again; powers of ten beyond the
range of doubles are divided out in two steps. A text too large for a double stands for none.
-/

namespace ImageConfig.Decimal

/-- The largest power of ten that is a double. -/
def largestPower : Nat := 308

/-- The double nearest to a power of ten. -/
def powerOfTen (exponent : Nat) : Float := Float.ofScientific 1 false exponent

/-- Divides `value` by a power of ten, of which a part may have to go first. -/
def shrink (value : Float) (power : Nat) : Float :=
  if power ≤ largestPower then value / powerOfTen power
  else if value == 0 then value
  else shrink (value / powerOfTen largestPower) (power - largestPower)
termination_by power
decreasing_by
  have : largestPower = 308 := rfl
  omega

/-- The double for `significand · 10 ^ exponent`, unless it is too large. -/
def scaled? (significand : UInt64) (exponent : Int) : Option Float :=
  let value := significand.toFloat
  if exponent < 0 then some (shrink value exponent.natAbs)
  else if exponent.natAbs ≤ largestPower then
    let product := value * powerOfTen exponent.natAbs
    if product.isInf then none else some product
  else if value == 0 then some value
  else none

end ImageConfig.Decimal
