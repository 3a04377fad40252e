import MetricEmitter.Environment.Lambda

/-!
# Detecting the environment

A detector looks at the variables of the process each time it is asked, since
they may have changed. Settings can force its answer; otherwise a process that
serves a Lambda function is recognised, and any other is described by the
settings alone.
-/

set_option autoImplicit false

namespace MetricEmitter

/-- Finds the environment of the process, for documents that go to a given outlet. -/
structure Detector where
  settings : Settings
  outlet : OutletId
  deriving DecidableEq, Repr, Inhabited

/-- Why no environment was detected. -/
inductive DetectionError where
  /-- The settings force a Lambda function and the process serves none. -/
  | notLambda
  deriving DecidableEq, Repr

def DetectionError.message : DetectionError → String
  | .notLambda => "environment is forced to Lambda but AWS_LAMBDA_FUNCTION_NAME is not set"

namespace Detector

/-- The environment to fall back on, which takes nothing but the settings. -/
def fallback (detector : Detector) : Environment :=
  .standard detector.settings detector.outlet

/-- The environment of the Lambda function the process serves, if it serves one. -/
def lambda? (detector : Detector) (process : Variables) : Option Environment :=
  (Lambda.detect process).map fun lambda => lambda.environment detector.outlet

/-- The environment of a process with the given variables. -/
def detect (detector : Detector) (process : Variables) : Except DetectionError Environment :=
  match detector.settings.choice with
  | some .lambda =>
      match detector.lambda? process with
      | some environment => .ok environment
      | none => .error .notLambda
  | some .workstation => .ok (.workstation detector.settings detector.outlet)
  | some .standard => .ok detector.fallback
  | none => .ok ((detector.lambda? process).getD detector.fallback)

/-- What is reported about a detection. -/
def report : Except DetectionError Environment → List Notice
  | .ok environment =>
      [.environmentDetected (environment.serviceType.getD Environment.unknown)]
  | .error _ => []

end Detector

end MetricEmitter
