import MetricEmitter.Dimension.Layers
import MetricEmitter.Json
import MetricEmitter.Notice
import MetricEmitter.Time.Instant

/-!
# Contexts

A context collects what the next document will say: its namespace, properties,
dimensions, samples and possibly its time. Metrics, properties and the time
belong to one cycle and go when the document is out; the namespace and, as the
caller wishes, the dimensions stay (`Context.renewed`).
-/

set_option autoImplicit false

namespace MetricEmitter

/-- What has been collected for the next document. -/
structure Context where
  namespaceName : String
  properties : Table Json
  layers : Layers
  timestamp : Option Instant
  metrics : Table Series

namespace Context

/-- The namespace of a context for which none was set. -/
def defaultNamespace : String := "aws-embedded-metrics"

/-- A context in which nothing has been collected, with the given default dimensions. -/
def ofDefaults (defaults : DimensionSet) : Context where
  namespaceName := defaultNamespace
  properties := .empty
  layers := .ofDefaults defaults
  timestamp := none
  metrics := .empty

def new : Context :=
  ofDefaults .empty

instance : Inhabited Context := ⟨new⟩

/-! ## Properties, namespace and time -/

def putProperty (context : Context) (name : String) (value : Json) : Context :=
  { context with properties := context.properties.insert name value }

def setNamespace (context : Context) (name : String) : Context :=
  { context with namespaceName := name }

def setTimestamp (context : Context) (instant : Instant) : Context :=
  { context with timestamp := some instant }

/-- The context with its time set, to the given one if it has none. -/
def pinned (context : Context) (now : Instant) : Context :=
  { context with timestamp := some (context.timestamp.getD now) }

/-! ## Samples -/

/-- The series of a metric, without samples if none was recorded. -/
def series (context : Context) (metric : String) : Series :=
  (context.metrics.get? metric).getD .empty

/-- Records a sample of a metric. A sample that is not finite, or for which the series has no
room, is dropped with a notice. -/
def record (context : Context) (metric : String) (sample : Float) (unit : Option MetricUnit) :
    Context × List Notice :=
  if sample.isFinite then
    if (context.series metric).isFull then (context, [.seriesFull sample])
    else
      ({ context with
          metrics := context.metrics.insert metric ((context.series metric).record sample unit) },
        [])
  else (context, [.sampleNotFinite metric sample])

/-! ## Dimensions -/

/-- The context with other layers, if there are any. -/
def withLayers (context : Context) (layers : Except DimensionError Layers) :
    Except DimensionError Context :=
  layers.map fun layers => { context with layers }

/-- Puts other default dimensions under the active sets. -/
def setDefaultDimensions (context : Context) (set : DimensionSet) :
    Except DimensionError Context :=
  context.withLayers (context.layers.setDefaults set)

def dimensions (context : Context) : List DimensionSet :=
  context.layers.emitted

/-! ## The end of a cycle -/

/-- The context for the next cycle: samples, properties and the time are gone, and so are the
active dimension sets unless they are to be kept. -/
def renewed (context : Context) (keepDimensions : Bool) : Context :=
  { context with
    properties := .empty
    timestamp := none
    metrics := .empty
    layers := if keepDimensions then context.layers else context.layers.reset true }

end Context

end MetricEmitter
