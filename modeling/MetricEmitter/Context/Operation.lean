import MetricEmitter.Context.Emission

/-!
# Operations on a context

Everything that can be done to a context, as data, so that a sequence of
operations is a list. An operation may be refused, and a refused operation
leaves the context as it was. A preview writes a document for nobody: it only
brings out the notices about shadowed names.
-/

set_option autoImplicit false

namespace MetricEmitter

/-- Something that is done to a context. -/
inductive Operation where
  | putProperty (name : String) (value : Json)
  | putDimensions (set : DimensionSet)
  | setDimensions (sets : List DimensionSet)
  | setDimensionsOverDefaults (sets : List DimensionSet)
  | resetDimensions (keepDefaults : Bool)
  | setDefaultDimensions (set : DimensionSet)
  | record (metric : String) (sample : Float) (unit : Option MetricUnit)
  | setNamespace (name : String)
  | setTimestamp (instant : Instant)
  | preview

/-- What an operation answers: why it was refused, if it was, and what it reports. -/
structure Reply where
  refusal : Option DimensionError
  notices : List Notice
  deriving DecidableEq, Repr

namespace Reply

def quiet : Reply := ⟨none, []⟩

def reporting (notices : List Notice) : Reply := ⟨none, notices⟩

end Reply

namespace Context

/-- The changed context, or the context as it was together with the reason. -/
def settle (context : Context) : Except DimensionError Context → Context × Reply
  | .ok changed => (changed, .quiet)
  | .error reason => (context, ⟨some reason, []⟩)

def perform (context : Context) : Operation → Context × Reply
  | .putProperty name value => (context.putProperty name value, .quiet)
  | .putDimensions set => context.settle (context.withLayers (context.layers.put set))
  | .setDimensions sets => ({ context with layers := context.layers.replace sets }, .quiet)
  | .setDimensionsOverDefaults sets =>
      context.settle (context.withLayers (context.layers.replaceOverDefaults sets))
  | .resetDimensions keepDefaults =>
      ({ context with layers := context.layers.reset keepDefaults }, .quiet)
  | .setDefaultDimensions set => context.settle (context.setDefaultDimensions set)
  | .record metric sample unit =>
      let recorded := context.record metric sample unit
      (recorded.1, .reporting recorded.2)
  | .setNamespace name => (context.setNamespace name, .quiet)
  | .setTimestamp instant => (context.setTimestamp instant, .quiet)
  | .preview => (context, .reporting context.shadowNotices)

/-- Does operations in turn, going on after a refusal, and collects what they report. -/
def run (context : Context) : List Operation → Context × List Notice
  | [] => (context, [])
  | operation :: rest =>
      let performed := context.perform operation
      let finished := performed.1.run rest
      (finished.1, performed.2.notices ++ finished.2)

end Context

end MetricEmitter
