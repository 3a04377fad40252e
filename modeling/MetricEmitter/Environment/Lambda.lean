import MetricEmitter.Environment

/-!
# Lambda functions

A process that serves a Lambda function is told so by its variables. Its name is
the name of the function, which is also that of its log group, and its documents
carry what is known about the execution as properties.
-/

set_option autoImplicit false

namespace MetricEmitter

/-- What a process that serves a Lambda function knows about itself. -/
structure Lambda where
  functionName : String
  functionVersion : Option String
  logStream : Option String
  executionEnvironment : Option String
  traceId : Option String
  deriving DecidableEq, Repr

namespace Lambda

/-- Whether one list of characters stands in another in one piece. -/
def occursIn (pattern : List Char) : List Char → Bool
  | [] => pattern.isEmpty
  | character :: rest => pattern.isPrefixOf (character :: rest) || occursIn pattern rest

/-- Whether a trace is kept, so that its identifier leads somewhere. -/
def isSampled (trace : String) : Bool :=
  occursIn "Sampled=1".toList trace.toList

/-- The text of a variable unless it is empty. -/
def nonEmpty (process : Variables) (name : String) : Option String :=
  (process name).filter fun text => !text.isEmpty

/-- The function a process serves, if its variables name one. -/
def detect (process : Variables) : Option Lambda :=
  (nonEmpty process "AWS_LAMBDA_FUNCTION_NAME").map fun functionName =>
    { functionName
      functionVersion := nonEmpty process "AWS_LAMBDA_FUNCTION_VERSION"
      logStream := nonEmpty process "AWS_LAMBDA_LOG_STREAM_NAME"
      executionEnvironment := nonEmpty process "AWS_EXECUTION_ENV"
      traceId := (nonEmpty process "_X_AMZN_TRACE_ID").filter isSampled }

/-- The properties a document of the function carries. -/
def properties (lambda : Lambda) : List (String × String) :=
  [("executionEnvironment", lambda.executionEnvironment),
    ("functionVersion", lambda.functionVersion),
    ("logStreamId", lambda.logStream),
    ("traceId", lambda.traceId)].filterMap fun property =>
      property.2.map fun value => (property.1, value)

def serviceType : String := "AWS::Lambda::Function"

def environment (lambda : Lambda) (outlet : OutletId) : Environment where
  logGroup := some lambda.functionName
  serviceName := some lambda.functionName
  serviceType := some serviceType
  hook := lambda.properties.map fun property => .putProperty property.1 (.text property.2)
  outlet := outlet

end Lambda

end MetricEmitter
