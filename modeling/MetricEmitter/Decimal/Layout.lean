import MetricEmitter.Decimal.Shortest

/-!
# Two ways to write a floating point number

Both write the shortest digits that read back and differ in the rest. Data are
written in the JSON layout, which turns to an exponent for very large and very
small numbers and marks a whole number by `.0`. Messages are written in the
plain layout, which never uses an exponent and has no such mark.
-/

set_option autoImplicit false

namespace MetricEmitter

/-- The choices that the shortest digits leave open. -/
structure Layout where
  /-- Which of two equally near decimals is taken. -/
  tie : Tie
  /-- Whether a number whose first digit stands for this power of ten is written positionally. -/
  positional : Int → Bool
  /-- What follows a whole number. -/
  wholeMark : String

namespace Layout

/-- Data: positional from `0.00001` up to sixteen digits, whole numbers marked, ties to even. -/
def json : Layout where
  tie := .toEven
  positional := fun leading => -5 ≤ leading && leading < 16
  wholeMark := ".0"

/-- Messages: always positional, whole numbers unmarked, ties upward. -/
def plain : Layout where
  tie := .upward
  positional := fun _ => true
  wholeMark := ""

/-- Digits with the point at its place: the first digit stands for the power `leading` of ten. -/
def pointed (layout : Layout) (digits : List Char) (leading : Int) : String :=
  if leading < 0 then
    "0." ++ String.ofList (List.replicate (-leading - 1).toNat '0' ++ digits)
  else
    let places := leading.toNat + 1
    if digits.length ≤ places then
      String.ofList (digits ++ List.replicate (places - digits.length) '0') ++ layout.wholeMark
    else
      String.ofList (digits.take places) ++ "." ++ String.ofList (digits.drop places)

/-- Digits with the point after the first one, and the power of ten of that digit. -/
def scientific (digits : List Char) (leading : Int) : String :=
  let fraction := digits.drop 1
  String.ofList (digits.take 1) ++
    (if fraction.isEmpty then "" else "." ++ String.ofList fraction) ++
    (if leading < 0 then "e-" else "e+") ++ String.ofList (Nat.toDigits 10 leading.natAbs)

def magnitude (layout : Layout) (value : Float) : String :=
  let number := BinaryFraction.ofFloat value
  if number.mantissa = 0 then "0" ++ layout.wholeMark
  else
    let decimal := Decimal.shortest layout.tie number
    if layout.positional decimal.leadingExponent then
      layout.pointed decimal.digits decimal.leadingExponent
    else scientific decimal.digits decimal.leadingExponent

def text (layout : Layout) (value : Float) : String :=
  (if signBit value then "-" else "") ++ layout.magnitude value

end Layout

/-- The text of any floating point number in a message. -/
def messageNumber (value : Float) : String :=
  if value.isNaN then "NaN"
  else if value.isFinite then Layout.plain.text value
  else if signBit value then "-inf"
  else "inf"

end MetricEmitter
