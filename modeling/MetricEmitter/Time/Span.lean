/-!
# Spans of time

Lengths of time to the nanosecond, and how a message shows one: in the largest
unit of which it holds at least one, as a decimal without trailing zeros.
-/

set_option autoImplicit false

namespace MetricEmitter

/-- A length of time. -/
structure Span where
  nanoseconds : Nat
  deriving DecidableEq, Repr, Inhabited

namespace Span

def ofSeconds (seconds : Nat) : Span :=
  ⟨seconds * 1000000000⟩

/-- A unit of time as a power of ten of nanoseconds, with its sign. -/
def units : List (Nat × String) :=
  [(9, "s"), (6, "ms"), (3, "µs")]

/-- The last `places` digits of a number behind a point, without trailing zeros; nothing if all of
them are zeros. -/
def fraction (places number : Nat) : String :=
  let digits := Nat.toDigits 10 (number % Nat.pow 10 places)
  let padded := List.replicate (places - digits.length) '0' ++ digits
  let significant := (padded.reverse.dropWhile (· = '0')).reverse
  if significant.isEmpty then "" else "." ++ String.ofList significant

/-- The span in the largest unit of which it holds at least one. -/
def text (span : Span) : String :=
  match units.find? fun unit => Nat.pow 10 unit.1 ≤ span.nanoseconds with
  | some (places, sign) =>
      toString (span.nanoseconds / Nat.pow 10 places) ++ fraction places span.nanoseconds ++ sign
  | none => toString span.nanoseconds ++ "ns"

end Span

end MetricEmitter
