import MetricEmitter.Context
import MetricEmitter.Document

/-!
# What a context emits

The members of a document share one space of names. A dimension takes its name
before a metric, and a metric before a property. What loses its name to another
is shadowed: it is left out of the document, and a notice says so. The names of
the header and of the other members are not compared.
-/

set_option autoImplicit false

namespace MetricEmitter.Context

/-- The value of each dimension of the document, that of the last set that has the name. -/
def dimensionValues (context : Context) : Table String :=
  Table.ofList (context.dimensions.flatMap DimensionSet.entries)

/-! ## Metrics -/

def writtenMetrics (context : Context) : Table Series :=
  let dimensions := context.dimensionValues
  context.metrics.filter fun name _ => !dimensions.contains name

/-- The metrics that lose their name to a dimension. -/
def shadowedMetrics (context : Context) : Table Series :=
  let dimensions := context.dimensionValues
  context.metrics.filter fun name _ => dimensions.contains name

/-! ## Properties -/

def writtenProperties (context : Context) : Table Json :=
  let dimensions := context.dimensionValues
  let metrics := context.writtenMetrics
  context.properties.filter fun name _ => !(dimensions.contains name || metrics.contains name)

/-- The properties that lose their name to a dimension or to a written metric. -/
def shadowedProperties (context : Context) : Table Json :=
  let dimensions := context.dimensionValues
  let metrics := context.writtenMetrics
  context.properties.filter fun name _ => dimensions.contains name || metrics.contains name

/-! ## The document -/

/-- What is reported when the document is written: the shadowed metrics, then the shadowed
properties. -/
def shadowNotices (context : Context) : List Notice :=
  context.shadowedMetrics.names.map .metricShadowed ++
    context.shadowedProperties.names.map .propertyShadowed

/-- The document of a context, at the given time if the context has none of its own. -/
def document (context : Context) (now : Instant) : Document where
  timestamp := (context.timestamp.getD now).epochMillis
  namespaceName := context.namespaceName
  dimensionSets := context.dimensions.map DimensionSet.names
  directives := context.writtenMetrics.entries.map fun metric => (metric.1, metric.2.unit)
  dimensions := context.dimensionValues
  properties := context.writtenProperties
  samples := context.writtenMetrics.mapValues Series.samples

end MetricEmitter.Context
