/-!
# The floating point number nearest to a decimal

Reading a decimal goes to the nearest floating point number, an even one if two
are equally near. Decimals far beyond either end of the range are answered
without looking at their digits, so that a huge power of ten costs nothing.
-/

set_option autoImplicit false

namespace MetricEmitter.Decimal

/-- A power of ten beyond the largest number, which also bounds the smallest ones. -/
def farPower : Int := 400

/-- The floating point number nearest to `coefficient · 10 ^ exponent`, with a sign. Decimals
beyond the range give an infinite number. -/
def nearest (negative : Bool) (coefficient : Nat) (exponent : Int) : Float :=
  let leading := exponent + (Nat.toDigits 10 coefficient).length
  let magnitude :=
    if coefficient = 0 || leading < -farPower then 0.0
    else if farPower < leading then Float.ofScientific 1 false farPower.toNat
    else if exponent < 0 then Float.ofScientific coefficient true (-exponent).toNat
    else Float.ofScientific coefficient false exponent.toNat
  if negative then -magnitude else magnitude

end MetricEmitter.Decimal
