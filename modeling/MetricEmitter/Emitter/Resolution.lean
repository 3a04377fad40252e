import MetricEmitter.Environment.Detector

/-!
# Resolving the environment

An emitter asks its provider for the environment of the next document and waits
for a limited time. A provider that does not answer in time, or answers with a
failure, is replaced by an environment that is always at hand. An answer that is
there at once counts as in time even if nobody waits at all.
-/

set_option autoImplicit false

namespace MetricEmitter

/-- How long an answer takes. -/
inductive Wait where
  /-- The answer is there at once. -/
  | atOnce
  /-- The answer is not there at once, and yet takes no measurable time. -/
  | momentary
  | lasting (span : Span)
  | endless
  deriving DecidableEq, Repr, Inhabited

/-- Whether an answer comes in time. -/
def Wait.endsWithin (wait : Wait) (timeout : Span) : Bool :=
  match wait with
  | .atOnce => true
  | .momentary => 0 < timeout.nanoseconds
  | .lasting span => span.nanoseconds ≤ timeout.nanoseconds
  | .endless => false

/-- An environment, or the reason why there is none, and how long it takes to know. -/
structure Answer where
  wait : Wait
  outcome : Except String Environment
  deriving Inhabited

/-- What has become of a question for the environment. -/
inductive Resolution where
  | resolved (environment : Environment)
  | failed (reason : String)
  | late (timeout : Span)

/-- What becomes of an answer for which one waits a limited time. -/
def Answer.within (answer : Answer) (timeout : Span) : Resolution :=
  if answer.wait.endsWithin timeout then
    match answer.outcome with
    | .ok environment => .resolved environment
    | .error reason => .failed reason
  else .late timeout

namespace Resolution

/-- The environment to use, and how often the provider is asked for the one it falls back on. -/
def settled (resolution : Resolution) (fallback : Environment) : Environment × Nat :=
  match resolution with
  | .resolved environment => (environment, 0)
  | .failed _ => (fallback, 1)
  | .late _ => (fallback, 1)

/-- What is reported about a question for the environment. -/
def notices : Resolution → List Notice
  | .resolved _ => []
  | .failed reason => [.environmentFailed reason]
  | .late timeout => [.environmentLate timeout]

end Resolution

/-! ## Providers -/

/-- What a flush finds around it. -/
structure Surroundings where
  /-- The time by the clock. -/
  now : Instant
  /-- The variables of the process. -/
  process : Variables
  /-- What the supplier answers, if the environments are supplied. -/
  answer : Answer
  /-- What the supplier falls back on, if the environments are supplied. -/
  fallback : Environment

/-- Who answers the question for the environment. -/
inductive Provider where
  | detecting (detector : Detector)
  /-- A supplier from outside. What it answers is found by each flush in its surroundings. -/
  | supplied (supplier : Nat)
  deriving DecidableEq, Repr, Inhabited

namespace Provider

/-- The answer of a provider, with what it reports. -/
def answer (provider : Provider) (surroundings : Surroundings) : Answer × List Notice :=
  match provider with
  | .detecting detector =>
      let detected := detector.detect surroundings.process
      (⟨.atOnce, detected.mapError DetectionError.message⟩, Detector.report detected)
  | .supplied _ => (surroundings.answer, [])

/-- The environment that stands in for one that was not found. -/
def fallback (provider : Provider) (surroundings : Surroundings) : Environment :=
  match provider with
  | .detecting detector => detector.fallback
  | .supplied _ => surroundings.fallback

end Provider

end MetricEmitter
