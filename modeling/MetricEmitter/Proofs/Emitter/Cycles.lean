import MetricEmitter.Proofs.Context.Samples
import MetricEmitter.Proofs.Emitter.Delivery

/-!
# Cycles are isolated

Samples, properties and the time of a context belong to one cycle, and so do the
operations that give them (`Operation.isPassing`). What such an operation does is
not part of what lasts (`Context.lasting`), and what lasts is never made from
what does not: what lasts of any operation, and whether it is refused, depends on
what lasted before (`Context.perform_of_lasting_eq`).

So what lasts is the same in two runs that differ in nothing but the passing
operations of the caller and of the hooks (`Session.Parallel.lasting_run`). A flush
keeps nothing else (`Emitter.afterFlush_eq_of_lasting_eq`). After it the two
emitters are equal, and from then on every operation has the same outcome and
every document is the same (`Session.cycles_are_isolated`).
-/

set_option autoImplicit false

namespace MetricEmitter

/-- The effect of an operation belongs to one cycle: it gives a property, a sample or the time. -/
def Operation.isPassing : Operation → Bool
  | .putProperty _ _ => true
  | .record _ _ _ => true
  | .setTimestamp _ => true
  | _ => false

/-- What of a context outlives the cycle: the namespace and the dimensions. -/
def Context.lasting (context : Context) : Context :=
  context.renewed true

/-- An environment without what its hook does for one cycle only. -/
def Environment.lasting (environment : Environment) : Environment :=
  { environment with hook := environment.hook.filter fun operation => !operation.isPassing }

/-- What of an emitter outlives the cycle, as long as the dimensions are kept. -/
def Emitter.lasting (emitter : Emitter) : Emitter :=
  { emitter with context := emitter.context.lasting }

/-! ## Operations -/

namespace Context

variable {first second : Context}

/-- A passing operation does nothing that lasts. -/
theorem lasting_perform_of_isPassing (context : Context) {operation : Operation}
    (passing : operation.isPassing = true) :
    (context.perform operation).1.lasting = context.lasting := by
  cases operation with
  | putProperty name value => rfl
  | setTimestamp instant => rfl
  | record metric sample unit =>
      change (context.record metric sample unit).1.lasting = context.lasting
      have records := context.records_record metric sample unit
      generalize context.record metric sample unit = recorded at records
      cases records <;> rfl
  | _ => cases passing

/-- What comes of an operation does not change if the context is stripped of what does not last:
neither what lasts afterwards nor whether the operation is refused. -/
theorem perform_lasting (context : Context) (operation : Operation) :
    (context.lasting.perform operation).1.lasting = (context.perform operation).1.lasting ∧
      (context.lasting.perform operation).2.refusal = (context.perform operation).2.refusal := by
  have settled : ∀ outcome,
      (context.lasting.settle (context.lasting.withLayers outcome)).1.lasting =
          (context.settle (context.withLayers outcome)).1.lasting ∧
        (context.lasting.settle (context.lasting.withLayers outcome)).2.refusal =
          (context.settle (context.withLayers outcome)).2.refusal := by
    intro outcome
    cases outcome <;> exact ⟨rfl, rfl⟩
  cases operation with
  | putDimensions set => exact settled _
  | setDimensionsOverDefaults sets => exact settled _
  | setDefaultDimensions set => exact settled _
  | record metric sample unit =>
      have passing : (Operation.record metric sample unit).isPassing = true := rfl
      refine ⟨?_, rfl⟩
      rw [context.lasting_perform_of_isPassing passing,
        context.lasting.lasting_perform_of_isPassing passing]
      rfl
  | _ => exact ⟨rfl, rfl⟩

/-- **What lasts of an operation, and whether it is refused, depends on what lasted before.** -/
theorem perform_of_lasting_eq (alike : first.lasting = second.lasting) (operation : Operation) :
    (first.perform operation).1.lasting = (second.perform operation).1.lasting ∧
      (first.perform operation).2.refusal = (second.perform operation).2.refusal := by
  obtain ⟨lasting, refusal⟩ := first.perform_lasting operation
  obtain ⟨lastingToo, refusalToo⟩ := second.perform_lasting operation
  rw [← lasting, ← lastingToo, ← refusal, ← refusalToo, alike]
  exact ⟨rfl, rfl⟩

theorem lasting_run_of_lasting_eq (alike : first.lasting = second.lasting)
    (operations : List Operation) :
    (first.run operations).1.lasting = (second.run operations).1.lasting := by
  induction operations generalizing first second with
  | nil => exact alike
  | cons operation rest ih => exact ih (perform_of_lasting_eq alike operation).1

theorem lasting_run_filter (context : Context) (operations : List Operation) :
    (context.run (operations.filter fun operation => !operation.isPassing)).1.lasting =
      (context.run operations).1.lasting := by
  induction operations generalizing context with
  | nil => rfl
  | cons operation rest ih =>
      cases passing : operation.isPassing with
      | false =>
          rw [List.filter_cons_of_pos (by rw [passing]; rfl)]
          exact ih (context.perform operation).1
      | true =>
          rw [List.filter_cons_of_neg (by rw [passing]; exact Bool.false_ne_true), ih context]
          exact lasting_run_of_lasting_eq (context.lasting_perform_of_isPassing passing).symm rest

/-- **What lasts of two hooks is the same if they differ in passing operations alone.** -/
theorem lasting_run_hook_eq {environment other : Environment}
    (sameEnvironment : environment.lasting = other.lasting)
    (alike : first.lasting = second.lasting) :
    (first.run environment.hook).1.lasting = (second.run other.hook).1.lasting := by
  have hooks : environment.lasting.hook = other.lasting.hook :=
    congrArg Environment.hook sameEnvironment
  calc (first.run environment.hook).1.lasting
    _ = (first.run environment.lasting.hook).1.lasting := (first.lasting_run_filter _).symm
    _ = (first.run other.lasting.hook).1.lasting := by rw [hooks]
    _ = (first.run other.hook).1.lasting := first.lasting_run_filter _
    _ = (second.run other.hook).1.lasting := lasting_run_of_lasting_eq alike _

end Context

/-! ## Flushes -/

namespace Emitter

variable {first second : Emitter}

/-- What lasts of a context with the defaults for an environment depends on what lasts. -/
theorem installDefaults_lasting (emitter : Emitter) (environment : Environment) :
    (emitter.lasting.installDefaults environment.lasting).1.lasting =
      (emitter.installDefaults environment).1.lasting := by
  have installs := emitter.installs_installDefaults environment
  have installsToo := emitter.lasting.installs_installDefaults environment.lasting
  have room : emitter.lasting.HasRoomFor environment.lasting ↔ emitter.HasRoomFor environment :=
    Iff.rfl
  generalize emitter.installDefaults environment = installed at installs
  generalize emitter.lasting.installDefaults environment.lasting = other at installsToo
  cases installs with
  | layered fits =>
      cases installsToo with
      | layered _ => rfl
      | alone _ noRoom _ => exact absurd (room.mpr fits) noRoom
      | unrestored _ _ noRoom _ => exact absurd (room.mpr fits) noRoom
  | alone reason noRoom accepts =>
      cases installsToo with
      | layered fits => exact absurd (room.mp fits) noRoom
      | alone _ _ _ => rfl
      | unrestored _ _ _ refuses => exact absurd accepts refuses
  | unrestored reason unrestored noRoom refuses =>
      cases installsToo with
      | layered fits => exact absurd (room.mp fits) noRoom
      | alone _ _ accepts => exact absurd accepts refuses
      | unrestored _ _ _ _ => rfl

/-- **After a flush the emitter depends on what lasted before and on what lasts of the
environment.** -/
theorem afterFlush_eq_of_lasting_eq {environment other : Environment}
    (sameEnvironment : environment.lasting = other.lasting)
    (alike : first.lasting = second.lasting) :
    first.afterFlush environment = second.afterFlush other := by
  have installed : (first.installDefaults environment).1.lasting =
      (second.installDefaults other).1.lasting := by
    rw [← first.installDefaults_lasting environment, sameEnvironment, alike,
      second.installDefaults_lasting other]
  have configured : (first.configured environment).lasting = (second.configured other).lasting :=
    Context.lasting_run_hook_eq sameEnvironment installed
  change { first.lasting with
      context := (first.configured environment).lasting.renewed first.lasting.keepsDimensions } =
    { second.lasting with
      context := (second.configured other).lasting.renewed second.lasting.keepsDimensions }
  rw [configured, alike]

/-! ## Steps of the caller -/

theorem lasting_perform_of_isPassing (emitter : Emitter) {operation : Operation}
    (passing : operation.isPassing = true) :
    (emitter.perform operation).1.lasting = emitter.lasting := by
  have callers : (emitter.perform operation).1.callerDefaults = emitter.callerDefaults := by
    cases operation with
    | setDefaultDimensions set => cases passing
    | _ => rfl
  change { emitter.lasting with
      context := (emitter.context.perform operation).1.lasting
      callerDefaults := (emitter.perform operation).1.callerDefaults } = emitter.lasting
  rw [Context.lasting_perform_of_isPassing _ passing, callers]
  rfl

theorem perform_of_lasting_eq (alike : first.lasting = second.lasting) (operation : Operation) :
    (first.perform operation).1.lasting = (second.perform operation).1.lasting := by
  obtain ⟨lasting, refusals⟩ :=
    Context.perform_of_lasting_eq (congrArg Emitter.context alike) operation
  have contexts : (first.perform operation).1.context.lasting =
      (second.perform operation).1.context.lasting := lasting
  have before : first.lasting.callerDefaults = second.lasting.callerDefaults :=
    congrArg Emitter.callerDefaults alike
  have callers : (first.perform operation).1.callerDefaults =
      (second.perform operation).1.callerDefaults :=
    callerDefaults_perform_eq before (congrArg Option.isSome refusals)
  change { first.lasting with
      context := (first.perform operation).1.context.lasting
      callerDefaults := (first.perform operation).1.callerDefaults } =
    { second.lasting with
      context := (second.perform operation).1.context.lasting
      callerDefaults := (second.perform operation).1.callerDefaults }
  rw [alike, contexts, callers]

end Emitter

/-! ## Two runs -/

/-- What a step answers the caller. A flush answers nothing: its notices tell of the outlets. -/
def StepReply.answer (reply : StepReply) : Option Reply :=
  if reply.flushed.isSome then none else some ⟨reply.refusal, reply.notices⟩

namespace Session

/-- Two runs are parallel if nothing else happens in one of them than in the other but for passing
operations, those the caller does and those of the hooks of the environments the flushes use. -/
inductive Parallel : Session → Session → List Step → List Step → Prop where
  | done (first second : Session) : Parallel first second [] []
  | aside {first second : Session} {operation : Operation} {steps others : List Step}
      (passing : operation.isPassing = true)
      (rest : Parallel (first.step (.perform operation)).1 second steps others) :
      Parallel first second (.perform operation :: steps) others
  | otherAside {first second : Session} {operation : Operation} {steps others : List Step}
      (passing : operation.isPassing = true)
      (rest : Parallel first (second.step (.perform operation)).1 steps others) :
      Parallel first second steps (.perform operation :: others)
  | perform {first second : Session} (operation : Operation) {steps others : List Step}
      (rest : Parallel (first.step (.perform operation)).1 (second.step (.perform operation)).1
        steps others) :
      Parallel first second (.perform operation :: steps) (.perform operation :: others)
  | keepDimensions {first second : Session} (keep : Bool) {steps others : List Step}
      (rest : Parallel (first.step (.keepDimensions keep)).1 (second.step (.keepDimensions keep)).1
        steps others) :
      Parallel first second (.keepDimensions keep :: steps) (.keepDimensions keep :: others)
  | setTimeout {first second : Session} (timeout : Span) {steps others : List Step}
      (rest : Parallel (first.step (.setTimeout timeout)).1 (second.step (.setTimeout timeout)).1
        steps others) :
      Parallel first second (.setTimeout timeout :: steps) (.setTimeout timeout :: others)
  | flush {first second : Session} {around other : Surroundings} {steps others : List Step}
      (environments : (first.emitter.flush around).environment.lasting =
        (second.emitter.flush other).environment.lasting)
      (rest : Parallel (first.flush around).1 (second.flush other).1 steps others) :
      Parallel first second (.flush around :: steps) (.flush other :: others)

/-- After flushes that use the same environment, apart from what its hook does for one cycle, the
emitters are the same. -/
theorem emitter_flush_eq {first second : Session} {around other : Surroundings}
    (environments : (first.emitter.flush around).environment.lasting =
      (second.emitter.flush other).environment.lasting)
    (alike : first.emitter.lasting = second.emitter.lasting) :
    (first.flush around).1.emitter = (second.flush other).1.emitter := by
  change (first.emitter.flush around).emitter = (second.emitter.flush other).emitter
  rw [Emitter.emitter_flush, Emitter.emitter_flush]
  exact Emitter.afterFlush_eq_of_lasting_eq environments alike

/-- **Parallel runs leave behind the same of what lasts.** -/
theorem Parallel.lasting_run {first second : Session} {steps others : List Step}
    (parallel : Parallel first second steps others)
    (alike : first.emitter.lasting = second.emitter.lasting) :
    (first.run steps).1.emitter.lasting = (second.run others).1.emitter.lasting := by
  induction parallel with
  | done first second => exact alike
  -- A passing operation of one run leaves what lasts as it is, so the other run need not move.
  | @aside first _ _ _ _ passing rest ih =>
      exact ih ((first.emitter.lasting_perform_of_isPassing passing).trans alike)
  | @otherAside _ second _ _ _ passing rest ih =>
      exact ih (alike.trans (second.emitter.lasting_perform_of_isPassing passing).symm)
  | perform operation rest ih => exact ih (Emitter.perform_of_lasting_eq alike operation)
  | keepDimensions keep rest ih =>
      exact ih (congrArg (fun emitter : Emitter => { emitter with keepsDimensions := keep }) alike)
  | setTimeout timeout rest ih =>
      exact ih (congrArg (fun emitter : Emitter => { emitter with timeout }) alike)
  | flush environments rest ih =>
      exact ih (congrArg Emitter.lasting (emitter_flush_eq environments alike))

/-- One run repeats another if the same happens in both, and flushes use the same environment, and
find the same time by the clock unless the context has a time of its own. -/
inductive Repeats : Session → Session → List Step → List Step → Prop where
  | done (first second : Session) : Repeats first second [] []
  | same {first second : Session} (step : Step) {steps others : List Step}
      (rest : Repeats (first.step step).1 (second.step step).1 steps others) :
      Repeats first second (step :: steps) (step :: others)
  | flush {first second : Session} {around other : Surroundings} {steps others : List Step}
      (environments : (first.emitter.flush around).environment =
        (second.emitter.flush other).environment)
      (clock :
        (first.emitter.configured (first.emitter.flush around).environment).timestamp = none →
          around.now = other.now)
      (rest : Repeats (first.flush around).1 (second.flush other).1 steps others) :
      Repeats first second (.flush around :: steps) (.flush other :: others)

/-- Two runs coincide if they show the same to the caller and to the outlets. -/
structure Coincide (first second : Session) (steps others : List Step) : Prop where
  /-- Each operation has the same outcome. -/
  answers : (first.run steps).2.map StepReply.answer = (second.run others).2.map StepReply.answer
  deliveries : first.deliveries steps = second.deliveries others
  emitters : (first.run steps).1.emitter = (second.run others).1.emitter

/-- A step does the same to one emitter, whatever the outlets hold. -/
theorem step_eq_of_emitter_eq {first second : Session} (same : first.emitter = second.emitter)
    (step : Step) :
    (first.step step).1.emitter = (second.step step).1.emitter ∧
      (first.step step).2.answer = (second.step step).2.answer ∧
      (first.step step).2.flushed = (second.step step).2.flushed := by
  obtain ⟨emitter, outlets⟩ := first
  obtain ⟨otherEmitter, otherOutlets⟩ := second
  subst same
  cases step <;> exact ⟨rfl, rfl, rfl⟩

theorem Coincide.cons {first second : Session} {step other : Step} {steps others : List Step}
    (answer : (first.step step).2.answer = (second.step other).2.answer)
    (delivery : (first.step step).2.flushed.map Flushed.delivery =
      (second.step other).2.flushed.map Flushed.delivery)
    (rest : Coincide (first.step step).1 (second.step other).1 steps others) :
    Coincide first second (step :: steps) (other :: others) where
  answers := congrArg₂ List.cons answer rest.answers
  deliveries := by rw [deliveries_cons, deliveries_cons, delivery, rest.deliveries]
  emitters := rest.emitters

/-- **Runs that start with one emitter coincide if one repeats the other.** -/
theorem Repeats.coincide {first second : Session} {steps others : List Step}
    (repeats : Repeats first second steps others) (same : first.emitter = second.emitter) :
    Coincide first second steps others := by
  induction repeats with
  | done first second => exact ⟨rfl, rfl, same⟩
  | same step rest ih =>
      obtain ⟨emitters, answers, flushes⟩ := step_eq_of_emitter_eq same step
      exact .cons answers (congrArg _ flushes) (ih emitters)
  | @flush first second around other steps others environments clock rest ih =>
      have configured : first.emitter.configured (first.emitter.flush around).environment =
          second.emitter.configured (first.emitter.flush around).environment := by rw [same]
      have sameTime : (first.emitter.flush around).delivery.capture.context.timestamp =
          (second.emitter.flush other).delivery.capture.context.timestamp := by
        rw [Emitter.capturedContext_flush, Emitter.capturedContext_flush, ← environments,
          ← configured]
        unfold Context.pinned
        cases time : (first.emitter.configured
            (first.emitter.flush around).environment).timestamp with
        | none => rw [clock time]
        | some instant => rfl
      have delivered : (first.emitter.flush around).delivery =
          (second.emitter.flush other).delivery :=
        Emitter.delivery_flush_eq rfl environments.symm configured sameTime
      have reached : (first.flush around).1.emitter = (second.flush other).1.emitter :=
        emitter_flush_eq (congrArg Environment.lasting environments) (congrArg Emitter.lasting same)
      exact .cons rfl (congrArg some delivered) (ih reached)

/-- **What a cycle collects does not outlive its flush.** Two runs are parallel up to a flush that
uses the same environment in both, apart from what its hook does for the cycle. After it the
emitters are the same, and if one run repeats the other from then on, every operation has the same
outcome and every document is the same. -/
theorem cycles_are_isolated {session : Session} {earlier otherEarlier : List Step}
    (parallel : Parallel session session earlier otherEarlier) {around other : Surroundings}
    (environments : ((session.run earlier).1.emitter.flush around).environment.lasting =
      ((session.run otherEarlier).1.emitter.flush other).environment.lasting)
    {later otherLater : List Step}
    (repeats : Repeats ((session.run earlier).1.flush around).1
      ((session.run otherEarlier).1.flush other).1 later otherLater) :
    ((session.run earlier).1.flush around).1.emitter =
        ((session.run otherEarlier).1.flush other).1.emitter ∧
      Coincide ((session.run earlier).1.flush around).1
        ((session.run otherEarlier).1.flush other).1 later otherLater := by
  have same := emitter_flush_eq environments (parallel.lasting_run rfl)
  exact ⟨same, repeats.coincide same⟩

/-- A cycle with samples, a property and a time, whose environment records a sample, and an empty
cycle whose environment comes too late: the next cycle is the same. -/
theorem cycles_are_isolated_late :
    let order : DimensionSet := ⟨[("Operation", "order")]⟩
    let checkout (hook : List Operation) : Environment :=
      ⟨none, some "checkout", none, hook, .console⟩
    let around (wait : Wait) (hook : List Operation) (now : Nat) : Surroundings :=
      ⟨⟨now⟩, fun _ => none, ⟨wait, .ok (checkout hook)⟩, checkout []⟩
    let session : Session := ⟨.new (.supplied 0), ⟨.unlimited, []⟩⟩
    let earlier : List Step := [.perform (.record "Latency" 1.5 none),
      .perform (.putProperty "user" (.text "guest")), .perform (.putDimensions order),
      .perform (.setTimestamp ⟨7⟩)]
    let otherEarlier : List Step := [.perform (.putDimensions order)]
    let full := (session.run earlier).1.emitter.flush (around .atOnce [.record "Visits" 1 none] 1)
    let empty := (session.run otherEarlier).1.emitter.flush (around .endless [] 2)
    let later (now : Nat) : List Step :=
      [.perform (.record "Latency" 2.5 none), .perform (.setTimestamp ⟨9⟩),
        .flush (around .atOnce [] now)]
    let next := ((session.run earlier).1.flush (around .atOnce [.record "Visits" 1 none] 1)).1
    let otherNext := ((session.run otherEarlier).1.flush (around .endless [] 2)).1
    (full.delivery.capture.context.metrics.names = ["Latency", "Visits"] ∧
        empty.delivery.capture.context.metrics.names = []) ∧
      next.emitter = otherNext.emitter ∧ Coincide next otherNext (later 3) (later 4) := by
  intro order checkout around session earlier otherEarlier full empty later next otherNext
  have parallel : Parallel session session earlier otherEarlier :=
    .aside rfl (.aside rfl (.perform _ (.aside rfl (.done _ _))))
  have used : full.environment = checkout [.record "Visits" 1 none] :=
    Emitter.environment_flush_of_supplied (session.provider_run earlier) _
  have otherUsed : empty.environment = checkout [] :=
    Emitter.environment_flush_of_supplied (session.provider_run otherEarlier) _
  have environments : full.environment.lasting = empty.environment.lasting := by
    rw [used, otherUsed]
    rfl
  have repeats : Repeats next otherNext (later 3) (later 4) := by
    refine .same _ (.same _ (.flush ?_ ?_ (.done _ _)))
    · trans checkout []
      · exact Emitter.environment_flush_of_supplied rfl _
      · symm
        exact Emitter.environment_flush_of_supplied rfl _
    · intro unset
      exact absurd unset (by decide +kernel)
  refine ⟨by decide +kernel, ?_⟩
  exact cycles_are_isolated parallel environments repeats

end Session

end MetricEmitter
