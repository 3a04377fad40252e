import MetricEmitter.Metric.MetricUnit

/-!
# Series of samples

The samples recorded under one metric name between two documents, oldest first,
with the unit given last. A document takes at most `Series.capacity` samples of
one metric, so a full series takes no more.
-/

set_option autoImplicit false

namespace MetricEmitter

/-- The samples of one metric, oldest first, and their unit. -/
structure Series where
  samples : List Float
  unit : Option MetricUnit
  deriving DecidableEq, Repr

namespace Series

/-- How many samples of one metric a document takes. -/
def capacity : Nat := 100

def empty : Series := ⟨[], none⟩

/-- Whether no further sample is taken. -/
def isFull (series : Series) : Bool :=
  capacity ≤ series.samples.length

/-- The series with one more sample; a given unit replaces the one before. -/
def record (series : Series) (sample : Float) (unit : Option MetricUnit) : Series where
  samples := series.samples ++ [sample]
  unit := unit.orElse fun _ => series.unit

end Series

end MetricEmitter
