/-!
# The shortest decimal that reads back

A finite binary floating point number stands for every real number that rounds
to it. Among those reals there are decimal fractions, and the one with the
fewest digits names the number without ambiguity.

`Basin.of` holds the interval of reals that round to a number, in quarters of
the unit in its last place, so that its ends are whole. A decimal grid is the
set of multiples of a power of ten. Going from coarse grids to fine ones, the
first grid with a point in the interval gives the fewest digits, and of the
points of that grid in the interval the nearest to the number is taken. Only
the two neighbours of the number on a grid matter: if any point of the grid lies
in the interval, so does one of them.

All arithmetic is exact.
-/

set_option autoImplicit false

namespace MetricEmitter

/-- The positive number `mantissa · 2 ^ exponent`. -/
structure BinaryFraction where
  mantissa : Nat
  exponent : Int
  deriving DecidableEq, Repr

/-- The number `coefficient · 10 ^ exponent`. -/
structure Decimal where
  coefficient : Nat
  exponent : Int
  deriving DecidableEq, Repr

/-- Which of two equally near decimals is taken. -/
inductive Tie where
  | toEven
  | upward
  deriving DecidableEq, Repr

namespace BinaryFraction

/-- The least mantissa of a number that is not subnormal. -/
def leastNormal : Nat := Nat.pow 2 52

/-- The exponent of the subnormal numbers, below which no exponent goes. -/
def leastExponent : Int := -1074

/-- The absolute value of a finite floating point number. -/
def ofFloat (value : Float) : BinaryFraction :=
  let bits := value.toBits.toNat
  let fraction := bits % leastNormal
  let biased := bits / leastNormal % 2048
  if biased = 0 then ⟨fraction, leastExponent⟩
  else ⟨fraction + leastNormal, leastExponent + (biased - 1)⟩

end BinaryFraction

def signBit (value : Float) : Bool :=
  value.toBits.toNat / Nat.pow 2 63 = 1

/-- The reals that round to a number, measured in the unit `2 ^ exponent`. -/
structure Basin where
  lower : Nat
  centre : Nat
  upper : Nat
  closed : Bool
  exponent : Int
  deriving DecidableEq, Repr

namespace Basin

/-- The reals that round to a positive number: half the way to either neighbour, the ends included
when the mantissa is even. The neighbour below a power of two is only half as far away. -/
def of (number : BinaryFraction) : Basin where
  lower := 4 * number.mantissa -
    (if number.mantissa = BinaryFraction.leastNormal ∧
        BinaryFraction.leastExponent < number.exponent then 1 else 2)
  centre := 4 * number.mantissa
  upper := 4 * number.mantissa + 2
  closed := number.mantissa % 2 = 0
  exponent := number.exponent - 2

/-- The factor that brings the unit of the interval and the step of the grid `10 ^ grid` to a
common whole scale, for the interval. -/
def unitScale (basin : Basin) (grid : Int) : Nat :=
  Nat.pow 2 basin.exponent.toNat * Nat.pow 10 (-grid).toNat

/-- The factor that brings the unit of the interval and the step of the grid `10 ^ grid` to a
common whole scale, for the grid. -/
def gridScale (basin : Basin) (grid : Int) : Nat :=
  Nat.pow 10 grid.toNat * Nat.pow 2 (-basin.exponent).toNat

/-- Whether the point `coefficient · 10 ^ grid` lies in the interval. -/
def holds (basin : Basin) (grid : Int) (coefficient : Nat) : Bool :=
  let point := coefficient * basin.gridScale grid
  let lower := basin.lower * basin.unitScale grid
  let upper := basin.upper * basin.unitScale grid
  if basin.closed then lower ≤ point && point ≤ upper else lower < point && point < upper

/-- Whether the point after `coefficient · 10 ^ grid` is nearer to the number than that point, for
a number between the two. -/
def prefersNext (basin : Basin) (tie : Tie) (grid : Int) (coefficient : Nat) : Bool :=
  let number := basin.centre * basin.unitScale grid
  let below := number - coefficient * basin.gridScale grid
  let above := (coefficient + 1) * basin.gridScale grid - number
  if below = above then
    match tie with
    | .toEven => coefficient % 2 = 1
    | .upward => true
  else above < below

/-- The point of a grid that lies in the interval and is nearest to the number. -/
def nearest? (basin : Basin) (tie : Tie) (grid : Int) : Option Nat :=
  let coefficient := basin.centre * basin.unitScale grid / basin.gridScale grid
  match basin.holds grid coefficient, basin.holds grid (coefficient + 1) with
  | true, true =>
      some (if basin.prefersNext tie grid coefficient then coefficient + 1 else coefficient)
  | true, false => some coefficient
  | false, true => some (coefficient + 1)
  | false, false => none

end Basin

namespace Decimal

/-- The number written out to its last digit. -/
def exact (number : BinaryFraction) : Decimal :=
  if 0 ≤ number.exponent then ⟨number.mantissa * Nat.pow 2 number.exponent.toNat, 0⟩
  else ⟨number.mantissa * Nat.pow 5 (-number.exponent).toNat, number.exponent⟩

/-- The exponent of a power of ten that exceeds the number. -/
def coarsestGrid (number : BinaryFraction) : Int :=
  (number.mantissa.log2 + 1 + number.exponent) * 30103 / 100000 + 1

/-- How many grids are tried: seventeen digits tell all numbers apart, and the coarsest grid may
lie a few powers of ten above the number. -/
def gridCount : Nat := 24

/-- The decimal with the fewest digits that rounds to a positive number, the nearest of those. -/
def shortest (tie : Tie) (number : BinaryFraction) : Decimal :=
  let basin := Basin.of number
  let grids := (List.range gridCount).map fun (step : Nat) => coarsestGrid number - step
  (grids.findSome? fun grid => (basin.nearest? tie grid).map fun coefficient =>
    (⟨coefficient, grid⟩ : Decimal)).getD (exact number)

def digits (decimal : Decimal) : List Char :=
  Nat.toDigits 10 decimal.coefficient

/-- The power of ten of the first digit. -/
def leadingExponent (decimal : Decimal) : Int :=
  decimal.exponent + decimal.digits.length - 1

end Decimal

end MetricEmitter
