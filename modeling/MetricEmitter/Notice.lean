import MetricEmitter.Decimal.Layout
import MetricEmitter.Dimension.DimensionSet
import MetricEmitter.Environment.Choice
import MetricEmitter.Metric.Series
import MetricEmitter.Time.Span

/-!
# Notices

What the library reports about its own work: data it had to drop or could not
deliver, environments it could not find, and the decisions it took. A notice is
its cause; the wording stands in `Notice.message` alone.
-/

set_option autoImplicit false

namespace MetricEmitter

/-- How grave a notice is. -/
inductive Severity where
  | error
  | warning
  | detail
  deriving DecidableEq, Repr

/-- The word for a severity at the start of a line. -/
def Severity.label : Severity → String
  | .error => "ERROR"
  | .warning => "WARN"
  | .detail => "DEBUG"

/-- Something worth reporting. -/
inductive Notice where
  /-- A sample is not a finite number and was dropped. -/
  | sampleNotFinite (metric : String) (sample : Float)
  /-- A sample was dropped since its series is full. -/
  | seriesFull (sample : Float)
  /-- A metric is not written since a dimension has its name. -/
  | metricShadowed (metric : String)
  /-- A property is not written since a dimension or a written metric has its name. -/
  | propertyShadowed (property : String)
  /-- The setting that chooses an environment is ignored. -/
  | choiceIgnored (unknown : UnknownChoice)
  /-- An environment of this type was detected. -/
  | environmentDetected (type : String)
  /-- The environment could not be found. -/
  | environmentFailed (reason : String)
  /-- The environment was not found in time. -/
  | environmentLate (timeout : Span)
  /-- These are the names of the default dimensions. -/
  | defaultsInstalled (names : List String)
  /-- The dimensions of the environment do not fit. -/
  | environmentDropped (reason : DimensionError)
  /-- Not even the defaults of the caller fit. -/
  | defaultsNotRestored (reason : DimensionError)
  /-- A document could not be written to the console. -/
  | consoleFailed (reason : String)
  /-- A document could not be written to a writer. -/
  | writerFailed (reason : String)
  deriving DecidableEq, Repr

namespace Notice

def severity : Notice → Severity
  | .sampleNotFinite .. | .seriesFull .. => .error
  | .metricShadowed .. | .propertyShadowed .. => .warning
  | .choiceIgnored .. | .environmentFailed .. | .environmentLate .. => .warning
  | .environmentDetected .. | .defaultsInstalled .. => .detail
  | .environmentDropped .. | .defaultsNotRestored .. => .error
  | .consoleFailed .. | .writerFailed .. => .error

def message : Notice → String
  | .sampleNotFinite metric sample =>
      "Dropping non-finite sample " ++ messageNumber sample ++ " for metric " ++ metric
  | .seriesFull sample =>
      "Dropping sample " ++ messageNumber sample ++ ", more than " ++ toString Series.capacity ++
        " unflushed values"
  | .metricShadowed metric =>
      "Metric " ++ metric ++ " is shadowed by the dimension of the same name"
  | .propertyShadowed property =>
      "Property " ++ property ++ " is shadowed by the dimension or metric of the same name"
  | .choiceIgnored unknown => "Ignoring AWS_EMF_ENVIRONMENT: " ++ unknown.message
  | .environmentDetected type => "Resolved environment " ++ type
  | .environmentFailed reason =>
      "Failed to resolve environment, using the default environment: " ++ reason
  | .environmentLate timeout =>
      "Environment not resolved within " ++ timeout.text ++ ", using the default environment"
  | .defaultsInstalled names => "Default dimensions " ++ Text.quotedList names
  | .environmentDropped reason => "Dropping environment dimensions: " ++ reason.message
  | .defaultsNotRestored reason => "Unable to restore default dimensions: " ++ reason.message
  | .consoleFailed reason => "Failed to write metrics document to stdout: " ++ reason
  | .writerFailed reason => "Failed to write metrics document: " ++ reason

/-- The line a notice makes in a log. -/
def line (notice : Notice) : String :=
  notice.severity.label ++ " " ++ notice.message

end Notice

end MetricEmitter
