import MetricEmitter.Json.Printer
import MetricEmitter.Metric.Series

/-!
# Documents

A document is one JSON object. Its first member, `_aws`, states the time and one
directive that names the namespace, the dimension sets and the metrics; the
members after it give the dimensions, properties and samples their values.
-/

set_option autoImplicit false

namespace MetricEmitter

structure Document where
  /-- Milliseconds since the epoch. -/
  timestamp : Nat
  namespaceName : String
  /-- The names of each dimension set. -/
  dimensionSets : List (List String)
  /-- The metrics with their units. -/
  directives : List (String × Option MetricUnit)
  dimensions : Table String
  properties : Table Json
  samples : Table (List Float)

namespace Document

/-- The name of the member that tells the reader what the other members are. -/
def headerName : String := "_aws"

/-- A metric in the list of metrics; the unit stands only where there is one. -/
def directive (metric : String × Option MetricUnit) : Json :=
  .object (("Name", .text metric.1) ::
    match metric.2 with
    | none => []
    | some unit => [("Unit", .text unit.documentName)])

def header (document : Document) : Json :=
  .object [
    ("Timestamp", .integer document.timestamp),
    ("CloudWatchMetrics", .array [.object [
      ("Namespace", .text document.namespaceName),
      ("Dimensions", .array (document.dimensionSets.map fun names => .array (names.map .text))),
      ("Metrics", .array (document.directives.map directive))]])]

/-- The samples of one metric: a number if there is one sample, an array otherwise. -/
def sampleValue : List Float → Json
  | [sample] => .ofFloat sample
  | samples => .array (samples.map .ofFloat)

/-- The members in the order in which they are written. -/
def members (document : Document) : List (String × Json) :=
  (headerName, document.header) ::
    (document.dimensions.mapValues Json.text).entries ++
    document.properties.entries ++
    (document.samples.mapValues sampleValue).entries

def toJson (document : Document) : Json :=
  .object document.members

/-- The document as one line of text. -/
def text (document : Document) : String :=
  document.toJson.render

end Document

end MetricEmitter
