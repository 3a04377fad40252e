import MetricEmitter.Proofs.Context.LateDefaults
import MetricEmitter.Proofs.Emitter.Defaults
import MetricEmitter.Proofs.Emitter.Preparation

/-!
# Environments leave no trace

Between two flushes the default dimensions of the context hold those of the last
environment. Two runs that differ in nothing but the environments of their
flushes therefore reach emitters that differ in these defaults, and in nothing
else (`Session.bare_run`), as long as hooks put no more than properties and the
operations of the caller are accepted or refused alike.

The next flush makes the defaults anew from those of the caller. As it can always
put the latter in the place of the former (`Emitter.Consistent.accepts`), what it
installs does not depend on the defaults it finds
(`Emitter.Consistent.installDefaults_eq`). So a document does not show which
environments were used before (`Session.environments_leave_no_trace`).
-/

set_option autoImplicit false

namespace MetricEmitter

/-! ## Apart from the defaults -/

/-- An emitter whose context is without default dimensions; those the caller asked for stay. -/
def Emitter.bare (emitter : Emitter) : Emitter :=
  { emitter with context := emitter.context.bare }

/-- The hook of an environment puts properties and does nothing else. -/
def Environment.PutsProperties (environment : Environment) : Prop :=
  ∀ operation ∈ environment.hook, ∃ name value, operation = .putProperty name value

/-- The caller does the same in both steps; a flush may find anything around it. -/
inductive Step.SameCall : Step → Step → Prop where
  | perform (operation : Operation) : SameCall (.perform operation) (.perform operation)
  | keepDimensions (keep : Bool) : SameCall (.keepDimensions keep) (.keepDimensions keep)
  | setTimeout (timeout : Span) : SameCall (.setTimeout timeout) (.setTimeout timeout)
  | flush (around other : Surroundings) : SameCall (.flush around) (.flush other)

/-! ## Hooks that put properties -/

theorem Context.run_of_putsProperties (context : Context) {operations : List Operation}
    (puts : ∀ operation ∈ operations, ∃ name value, operation = .putProperty name value) :
    ∃ properties, (context.run operations).1 = { context with properties } := by
  induction operations generalizing context with
  | nil => exact ⟨context.properties, rfl⟩
  | cons operation rest ih =>
      obtain ⟨⟨name, value, same⟩, others⟩ := List.forall_mem_cons.mp puts
      subst same
      obtain ⟨properties, outcome⟩ := ih (context.putProperty name value) others
      exact ⟨properties, outcome⟩

namespace Environment.PutsProperties

variable {environment : Environment}

theorem keepsDefaults (puts : environment.PutsProperties) (context : Context) :
    environment.KeepsDefaults context := by
  apply context.defaults_run
  intro operation member
  obtain ⟨name, value, rfl⟩ := puts operation member
  rfl

theorem keepsLayers (puts : environment.PutsProperties) (context : Context) :
    environment.KeepsLayers context := by
  obtain ⟨properties, ran⟩ := context.run_of_putsProperties puts
  rw [KeepsLayers, ran]

theorem admissible (puts : environment.PutsProperties) : environment.Admissible := by
  intro operation member
  obtain ⟨name, value, rfl⟩ := puts operation member
  exact List.forall_mem_nil _

end Environment.PutsProperties

/-- The environments a detector finds put properties and do nothing else. -/
theorem Detector.putsProperties_of_detect {detector : Detector} {process : Variables}
    {environment : Environment} (found : detector.detect process = .ok environment) :
    environment.PutsProperties := by
  have idle : ∀ settings type outlet,
      (Environment.described settings type outlet).PutsProperties :=
    fun _ _ _ => List.forall_mem_nil _
  have lambdas : ∀ environment, detector.lambda? process = some environment →
      environment.PutsProperties := by
    intro environment served
    obtain ⟨lambda, _, rfl⟩ := Option.map_eq_some_iff.mp served
    intro operation member
    obtain ⟨property, _, same⟩ := List.mem_map.mp member
    exact ⟨property.1, .text property.2, same.symm⟩
  unfold detect at found
  split at found
  · split at found
    · rename_i served
      cases found
      exact lambdas _ served
    · cases found
  · cases found
    exact idle _ _ _
  · cases found
    exact idle _ _ _
  · cases found
    cases served : detector.lambda? process with
    | some environment => exact lambdas environment served
    | none => exact idle _ _ _

/-- The environments an emitter detects put properties and do nothing else. -/
theorem Emitter.putsProperties_of_detecting {emitter : Emitter} {detector : Detector}
    (detecting : emitter.provider = .detecting detector) (surroundings : Surroundings) :
    (emitter.flush surroundings).environment.PutsProperties := by
  rw [environment_flush_of_detecting detecting]
  cases detected : detector.detect surroundings.process with
  | error reason => exact List.forall_mem_nil _
  | ok environment => exact Detector.putsProperties_of_detect detected

/-! ## Steps of two runs -/

namespace Emitter

variable {first second : Emitter}

theorem callerDefaults_eq_of_bare_eq (alike : first.bare = second.bare) :
    first.callerDefaults = second.callerDefaults := by
  have same : first.bare.callerDefaults = second.bare.callerDefaults :=
    congrArg Emitter.callerDefaults alike
  exact same

theorem bare_perform {operation : Operation} (alike : first.bare = second.bare)
    (sameOutcome : (first.perform operation).2.refusal.isSome =
      (second.perform operation).2.refusal.isSome) :
    (first.perform operation).1.bare = (second.perform operation).1.bare := by
  have contexts : (first.perform operation).1.context.bare =
      (second.perform operation).1.context.bare :=
    Context.bare_perform (congrArg Emitter.context alike) sameOutcome
  have callers : (first.perform operation).1.callerDefaults =
      (second.perform operation).1.callerDefaults :=
    callerDefaults_perform_eq (callerDefaults_eq_of_bare_eq alike) sameOutcome
  change { first.bare with
      context := (first.perform operation).1.context.bare
      callerDefaults := (first.perform operation).1.callerDefaults } =
    { second.bare with
      context := (second.perform operation).1.context.bare
      callerDefaults := (second.perform operation).1.callerDefaults }
  rw [alike, contexts, callers]

/-- A flush whose hook puts properties leaves nothing behind that depends on the environment, but
for the defaults. -/
theorem bare_flush {emitter : Emitter} {surroundings : Surroundings}
    (puts : (emitter.flush surroundings).environment.PutsProperties) :
    (emitter.flush surroundings).emitter.bare =
      { emitter.bare with
        context := emitter.bare.context.renewed emitter.bare.keepsDimensions } := by
  rw [emitter_flush, afterFlush, configured]
  generalize (emitter.flush surroundings).environment = environment at puts
  obtain ⟨properties, ran⟩ :=
    (emitter.installDefaults environment).1.run_of_putsProperties puts
  obtain ⟨defaults, installed⟩ := emitter.installDefaults_eq_contextOver environment
  rw [ran, installed]
  obtain ⟨context, callerDefaults, provider, keepsDimensions, timeout⟩ := emitter
  cases keepsDimensions <;> rfl

end Emitter

namespace Session

/-- The rule that hooks put properties and do nothing else. -/
def HooksPutProperties (environment : Environment) (_ : Context) : Prop :=
  environment.PutsProperties

theorem Follows.keepsDefaults {session : Session} {steps : List Step}
    (follows : session.Follows HooksPutProperties steps) :
    session.Follows Environment.KeepsDefaults steps :=
  follows.mono fun _ context puts => puts.keepsDefaults context

/-- A run of an emitter that detects its environments follows the rule that hooks put properties. -/
theorem follows_of_detecting {session : Session} {detector : Detector}
    (detecting : session.emitter.provider = .detecting detector) {steps : List Step}
    (admissible : ∀ operation, .perform operation ∈ steps → operation.Admissible) :
    session.Follows HooksPutProperties steps := by
  induction steps generalizing session with
  | nil => trivial
  | cons step rest ih =>
      refine ⟨?_, ih ((session.provider_step step).trans detecting) fun operation later =>
        admissible operation (List.mem_cons_of_mem step later)⟩
      cases step with
      | perform operation => exact admissible operation List.mem_cons_self
      | keepDimensions keep => trivial
      | setTimeout timeout => trivial
      | flush surroundings =>
          have puts := Emitter.putsProperties_of_detecting detecting surroundings
          exact ⟨puts.admissible, puts⟩

variable {first second : Session}

theorem bare_step {step other : Step} (sameCall : step.SameCall other)
    (alike : first.emitter.bare = second.emitter.bare)
    (sameOutcome : (first.step step).2.refusal.isSome = (second.step other).2.refusal.isSome)
    (permitted : first.emitter.Permits HooksPutProperties step)
    (permittedToo : second.emitter.Permits HooksPutProperties other) :
    (first.step step).1.emitter.bare = (second.step other).1.emitter.bare := by
  cases sameCall with
  | perform operation => exact Emitter.bare_perform alike sameOutcome
  | keepDimensions keep =>
      exact congrArg (fun emitter : Emitter => { emitter with keepsDimensions := keep }) alike
  | setTimeout timeout => exact congrArg (fun emitter : Emitter => { emitter with timeout }) alike
  | flush around other =>
      calc (first.emitter.flush around).emitter.bare
        _ = { first.emitter.bare with
              context := first.emitter.bare.context.renewed first.emitter.bare.keepsDimensions } :=
          Emitter.bare_flush permitted.2
        _ = { second.emitter.bare with
              context :=
                second.emitter.bare.context.renewed second.emitter.bare.keepsDimensions } := by
          rw [alike]
        _ = (second.emitter.flush other).emitter.bare := (Emitter.bare_flush permittedToo.2).symm

/-- **Runs in which the caller does the same with the same outcomes reach emitters that differ in
the defaults of their contexts alone.** -/
theorem bare_run {steps others : List Step} (sameCalls : List.Forall₂ Step.SameCall steps others)
    (alike : first.emitter.bare = second.emitter.bare)
    (sameOutcomes : (first.run steps).2.map (fun reply => reply.refusal.isSome) =
      (second.run others).2.map fun reply => reply.refusal.isSome)
    (follows : first.Follows HooksPutProperties steps)
    (followsToo : second.Follows HooksPutProperties others) :
    (first.run steps).1.emitter.bare = (second.run others).1.emitter.bare := by
  induction sameCalls generalizing first second with
  | nil => exact alike
  | cons sameCall sameRest ih =>
      obtain ⟨sameOutcome, sameLater⟩ := List.cons.inj sameOutcomes
      exact ih (bare_step sameCall alike sameOutcome follows.1 followsToo.1) sameLater
        follows.2 followsToo.2

end Session

/-! ## The next flush -/

/-- **What a consistent emitter installs for an environment does not depend on the defaults its
context holds.** -/
theorem Emitter.Consistent.installDefaults_eq {first second : Emitter}
    (consistent : first.Consistent) (consistentToo : second.Consistent)
    (alike : first.bare = second.bare) (environment : Environment) :
    (first.installDefaults environment).1 = (second.installDefaults environment).1 := by
  have callers := callerDefaults_eq_of_bare_eq alike
  have contexts : first.context.bare = second.context.bare := congrArg Emitter.context alike
  have layers : first.context.layers.bare = second.context.layers.bare :=
    congrArg Context.layers contexts
  have rebased : ∀ defaults, first.contextOver defaults = second.contextOver defaults := by
    intro defaults
    change { first.context.bare with layers := first.context.layers.bare.withDefaults defaults } =
      { second.context.bare with layers := second.context.layers.bare.withDefaults defaults }
    rw [contexts, layers]
  have room : first.context.layers.RoomFor environment.dimensionSet first.callerDefaults ↔
      second.context.layers.RoomFor environment.dimensionSet second.callerDefaults := by
    rw [Layers.RoomFor, Layers.RoomFor, callers, Layers.active_eq_of_bare_eq layers,
      Layers.defaultsApply_eq_of_bare_eq layers]
  rcases consistent.installDefaults_cases environment with ⟨fits, installed⟩ | ⟨fits, installed⟩ <;>
    rcases consistentToo.installDefaults_cases environment with
      ⟨otherFits, otherInstalled⟩ | ⟨otherFits, otherInstalled⟩
  · rw [installed, otherInstalled, rebased, layeredDefaults, layeredDefaults, callers]
  · exact absurd (room.mp fits) otherFits
  · exact absurd (room.mpr otherFits) fits
  · rw [installed, otherInstalled, rebased, callers]

namespace Session

/-- **A document does not show the environments of earlier flushes, and neither does the emitter
after it**: the caller has done the same with the same outcomes in two runs, and their next flushes
use one environment at one time. -/
theorem environments_leave_no_trace {session : Session} {asked : DimensionSet}
    (made : session.emitter.Made asked) {steps others : List Step}
    (sameCalls : List.Forall₂ Step.SameCall steps others)
    (sameOutcomes : (session.run steps).2.map (fun reply => reply.refusal.isSome) =
      (session.run others).2.map fun reply => reply.refusal.isSome)
    (follows : session.Follows HooksPutProperties steps)
    (followsToo : session.Follows HooksPutProperties others)
    {around other : Surroundings} {environment : Environment}
    (used : ((session.run steps).1.emitter.flush around).environment = environment)
    (usedToo : ((session.run others).1.emitter.flush other).environment = environment)
    (sameTime :
      ((session.run steps).1.emitter.flush around).delivery.capture.context.timestamp =
        ((session.run others).1.emitter.flush other).delivery.capture.context.timestamp) :
    let flushed := (session.run steps).1.emitter.flush around
    let flushedToo := (session.run others).1.emitter.flush other
    flushed.delivery = flushedToo.delivery ∧ flushed.emitter = flushedToo.emitter := by
  intro flushed flushedToo
  have keeps : ∀ environment context, HooksPutProperties environment context →
      environment.KeepsDefaults context := fun _ context puts => puts.keepsDefaults context
  have alike := bare_run sameCalls rfl sameOutcomes follows followsToo
  have installed := (made.consistent.run (follows.mono keeps)).installDefaults_eq
    (made.consistent.run (followsToo.mono keeps)) alike environment
  have configured : (session.run steps).1.emitter.configured environment =
      (session.run others).1.emitter.configured environment := by
    rw [Emitter.configured, Emitter.configured, installed]
  refine ⟨Emitter.delivery_flush_eq used usedToo configured sameTime, ?_⟩
  change ((session.run steps).1.emitter.flush around).emitter =
    ((session.run others).1.emitter.flush other).emitter
  rw [Emitter.emitter_flush, Emitter.emitter_flush, used, usedToo]
  change { (session.run steps).1.emitter.bare with
      context := ((session.run steps).1.emitter.configured environment).renewed
        (session.run steps).1.emitter.bare.keepsDimensions } =
    { (session.run others).1.emitter.bare with
      context := ((session.run others).1.emitter.configured environment).renewed
        (session.run others).1.emitter.bare.keepsDimensions }
  rw [configured, alike]

/-- A process that has served a Lambda function and one that never did: the defaults are different
before the next flush, and nothing is different after it. -/
theorem environments_leave_no_trace_lambda :
    let stage : DimensionSet := ⟨[("Stage", "beta")]⟩
    let call : DimensionSet := ⟨[("Call", "pay")]⟩
    let serving : Variables := fun name =>
      if name = "AWS_LAMBDA_FUNCTION_NAME" then some "checkout"
      else if name = "AWS_LAMBDA_FUNCTION_VERSION" then some "7" else none
    let around (process : Variables) (nanoseconds : Nat) : Surroundings :=
      ⟨⟨nanoseconds⟩, process, ⟨.atOnce, .error "not asked"⟩, default⟩
    let session : Session :=
      ⟨.ofContext (.detecting ⟨.unset, .console⟩) (.ofDefaults stage), ⟨.unlimited, []⟩⟩
    let steps (process : Variables) : List Step :=
      [.flush (around process 1), .perform (.putDimensions call),
        .perform (.record "Latency" 2.5 none)]
    let lambda := (session.run (steps serving)).1.emitter
    let other := (session.run (steps fun _ => none)).1.emitter
    let next := around (fun _ => none) 2
    (lambda.context.layers.defaults.value? "LogGroup" = some "checkout" ∧
      other.context.layers.defaults.value? "LogGroup" = some "Unknown-metrics") ∧
      (lambda.flush next).delivery = (other.flush next).delivery ∧
      (lambda.flush next).emitter = (other.flush next).emitter := by
  intro stage call serving around session steps lambda other next
  have stageBuilds : DimensionSet.ofPairs stage.entries = .ok stage := by decide
  have callWellFormed : call.WellFormed := ⟨by decide, by decide⟩
  have made : session.emitter.Made stage := .ofContext _ (.ofDefaults (.ofPairs stageBuilds))
  have follows : ∀ process, session.Follows HooksPutProperties (steps process) := by
    intro process
    have puts : (session.emitter.flush (around process 1)).environment.PutsProperties :=
      Emitter.putsProperties_of_detecting rfl _
    refine ⟨⟨puts.admissible, puts⟩, ?_, List.forall_mem_nil _, trivial⟩
    intro set given
    obtain rfl := List.mem_singleton.mp given
    exact callWellFormed.constructible
  have sameCalls : List.Forall₂ Step.SameCall (steps serving) (steps fun _ => none) :=
    .cons (.flush _ _) (.cons (.perform _) (.cons (.perform _) .nil))
  have sameOutcomes : (session.run (steps serving)).2.map (fun reply => reply.refusal.isSome) =
      (session.run (steps fun _ => none)).2.map fun reply => reply.refusal.isSome := by
    decide +kernel
  have detecting : lambda.provider = .detecting ⟨.unset, .console⟩ := by decide +kernel
  have detectingToo : other.provider = .detecting ⟨.unset, .console⟩ := by decide +kernel
  have used : (lambda.flush next).environment = .standard .unset .console :=
    Emitter.environment_flush_of_detecting detecting next
  have usedToo : (other.flush next).environment = .standard .unset .console :=
    Emitter.environment_flush_of_detecting detectingToo next
  have sameTime : (lambda.flush next).delivery.capture.context.timestamp =
      (other.flush next).delivery.capture.context.timestamp := by decide +kernel
  refine ⟨by decide +kernel, ?_⟩
  exact environments_leave_no_trace made sameCalls sameOutcomes (follows serving)
    (follows fun _ => none) used usedToo sameTime

end Session

end MetricEmitter
