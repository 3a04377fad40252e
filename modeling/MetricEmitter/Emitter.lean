import MetricEmitter.Emitter.Resolution

/-!
# Emitters

An emitter collects data in a context and now and then flushes it: it asks for
the environment, puts the dimensions of the environment under the defaults of
the caller, lets the environment do its own operations, makes a document, hands
it to the outlet of the environment, and starts the next cycle.

The defaults of the caller are kept beside the context, whose defaults also hold
the dimensions of the last environment. At each flush the defaults are made anew
from those of the caller, so that no environment outlives its flush
(`Emitter.installDefaults`). If the dimensions of the environment do not fit,
the defaults of the caller stand alone.

Every document has a text (`Document.text`): its members are named by texts, and
no value in it is without a written form. A flush therefore always hands over
one document, and has no case for one that cannot be written.
-/

set_option autoImplicit false

namespace MetricEmitter

/-- Collects data and makes documents of it. -/
structure Emitter where
  context : Context
  /-- The default dimensions the caller asked for. -/
  callerDefaults : DimensionSet
  provider : Provider
  /-- Whether the active dimension sets outlive a flush. -/
  keepsDimensions : Bool
  /-- How long a flush waits for the environment. -/
  timeout : Span

/-- A document on its way to an outlet. -/
structure Delivery where
  outlet : OutletId
  capture : Capture

/-- What a flush has brought about. -/
structure Flushed where
  /-- The emitter at the start of the next cycle. -/
  emitter : Emitter
  delivery : Delivery
  resolution : Resolution
  /-- The environment whose dimensions, operations and outlet were used. -/
  environment : Environment
  /-- How often the provider was asked for the environment it falls back on. -/
  fallbackCalls : Nat
  /-- What was reported before the document was made. -/
  preparation : List Notice
  /-- What was reported when the document was made. -/
  shadowing : List Notice

namespace Emitter

/-- How long a flush waits unless told otherwise. -/
def defaultTimeout : Span := .ofSeconds 1

/-- An emitter over a context, whose default dimensions count as those of the caller. -/
def ofContext (provider : Provider) (context : Context) : Emitter where
  context := context
  callerDefaults := context.layers.defaults
  provider := provider
  keepsDimensions := true
  timeout := defaultTimeout

def new (provider : Provider) : Emitter :=
  ofContext provider .new

/-! ## Collecting -/

/-- Does an operation on the context. Default dimensions that are accepted become those of the
caller. -/
def perform (emitter : Emitter) (operation : Operation) : Emitter × Reply :=
  let performed := emitter.context.perform operation
  let callerDefaults :=
    match operation, performed.2.refusal with
    | .setDefaultDimensions set, none => set
    | _, _ => emitter.callerDefaults
  ({ emitter with context := performed.1, callerDefaults }, performed.2)

/-! ## Flushing -/

/-- The defaults with the dimensions of an environment under those of the caller, and the context
with these defaults. -/
def layered (emitter : Emitter) (environment : Environment) :
    Except DimensionError (DimensionSet × Context) :=
  match DimensionSet.ofPairs environment.dimensionPairs with
  | .error reason => .error reason
  | .ok dimensions =>
      match dimensions.merge emitter.callerDefaults with
      | .error reason => .error reason
      | .ok defaults =>
          match emitter.context.setDefaultDimensions defaults with
          | .error reason => .error reason
          | .ok context => .ok (defaults, context)

/-- The context with the defaults for an environment: its dimensions under those of the caller, or
those of the caller alone if that does not fit. -/
def installDefaults (emitter : Emitter) (environment : Environment) : Context × List Notice :=
  match emitter.layered environment with
  | .ok (defaults, context) => (context, [.defaultsInstalled defaults.names])
  | .error reason =>
      match emitter.context.setDefaultDimensions emitter.callerDefaults with
      | .ok context => (context, [.environmentDropped reason])
      | .error unrestored =>
          (emitter.context, [.environmentDropped reason, .defaultsNotRestored unrestored])

/-- The context from which the document is made: with the defaults for the environment, after the
operations of the environment, and with its time set. -/
def prepared (emitter : Emitter) (environment : Environment) (now : Instant) :
    Context × List Notice :=
  let installed := emitter.installDefaults environment
  let configured := installed.1.run environment.hook
  (configured.1.pinned now, installed.2 ++ configured.2)

/-- Makes a document of what has been collected, and starts the next cycle. -/
def flush (emitter : Emitter) (surroundings : Surroundings) : Flushed :=
  let answered := emitter.provider.answer surroundings
  let resolution := answered.1.within emitter.timeout
  let settled := resolution.settled (emitter.provider.fallback surroundings)
  let environment := settled.1
  let prepared := emitter.prepared environment surroundings.now
  let context := prepared.1
  { emitter := { emitter with context := context.renewed emitter.keepsDimensions }
    delivery := ⟨environment.outlet, (context.document surroundings.now).text, context⟩
    resolution := resolution
    environment := environment
    fallbackCalls := settled.2
    preparation := answered.2 ++ resolution.notices ++ prepared.2
    shadowing := context.shadowNotices }

end Emitter

end MetricEmitter
