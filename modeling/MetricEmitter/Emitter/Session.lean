import MetricEmitter.Emitter

/-!
# Sessions

An emitter and the outlets its documents go to, and what happens to both in
turn: operations, changes of policy and flushes. A session answers each step
with what the step reports.
-/

set_option autoImplicit false

namespace MetricEmitter

/-- An emitter with the outlets its documents go to. -/
structure Session where
  emitter : Emitter
  outlets : Outlets

/-- Something that happens in a session. -/
inductive Step where
  | perform (operation : Operation)
  | keepDimensions (keep : Bool)
  | setTimeout (timeout : Span)
  | flush (surroundings : Surroundings)

structure StepReply where
  refusal : Option DimensionError
  notices : List Notice
  flushed : Option Flushed

namespace Session

/-- Flushes the emitter and hands the document to its outlet. -/
def flush (session : Session) (surroundings : Surroundings) : Session × StepReply :=
  let flushed := session.emitter.flush surroundings
  let delivered := session.outlets.accept flushed.delivery.outlet flushed.delivery.capture
  (⟨flushed.emitter, delivered.1⟩,
    ⟨none, flushed.preparation ++ flushed.shadowing ++ delivered.2, some flushed⟩)

def step (session : Session) : Step → Session × StepReply
  | .perform operation =>
      let performed := session.emitter.perform operation
      ({ session with emitter := performed.1 },
        ⟨performed.2.refusal, performed.2.notices, none⟩)
  | .keepDimensions keep =>
      ({ session with emitter.keepsDimensions := keep }, ⟨none, [], none⟩)
  | .setTimeout timeout =>
      ({ session with emitter.timeout := timeout }, ⟨none, [], none⟩)
  | .flush surroundings => session.flush surroundings

/-- One step after the other, with the answer of each. -/
def run (session : Session) : List Step → Session × List StepReply
  | [] => (session, [])
  | step :: rest =>
      let stepped := session.step step
      let finished := stepped.1.run rest
      (finished.1, stepped.2 :: finished.2)

end Session

end MetricEmitter
