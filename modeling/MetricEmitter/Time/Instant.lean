/-!
# Instants

Points in time to the nanosecond, before and after the epoch. A document states
its time in whole milliseconds as a word of 64 bits.
-/

set_option autoImplicit false

namespace MetricEmitter

/-- A point in time, by its distance from the epoch. -/
structure Instant where
  nanoseconds : Int
  deriving DecidableEq, Repr, Inhabited

/-- The whole milliseconds since the epoch, none before it, in 64 bits. -/
def Instant.epochMillis (instant : Instant) : Nat :=
  (instant.nanoseconds / 1000000).toNat % Nat.pow 2 64

end MetricEmitter
