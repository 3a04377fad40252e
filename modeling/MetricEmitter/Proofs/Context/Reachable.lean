import MetricEmitter.Proofs.Emitter.Installation

/-!
# Reachable contexts

A context is reachable when a program can come to hold it: by starting from
default dimensions, by operations, accepted or refused, and by the flushes of an
emitter, which hands the context first to the hook of an environment and then to
an outlet and leaves it for the next cycle (`Context.Reachable`). The caller
defaults of that emitter are arbitrary. Every set given to an operation, by a
caller or by a hook, is one a caller can come by.

The layers of a reachable context are sound (`Reachable.sound`), so a document
can hold the dimension sets it lists (`Reachable.dimensions_fit`).
-/

set_option autoImplicit false

namespace MetricEmitter

/-- An environment whose hook does admissible operations only. -/
def Environment.Admissible (environment : Environment) : Prop :=
  ∀ operation ∈ environment.hook, operation.Admissible

/-- The contexts a program can come to hold. -/
inductive Context.Reachable : Context → Prop where
  | ofDefaults {defaults : DimensionSet} (constructible : defaults.Constructible) :
      Reachable (.ofDefaults defaults)
  | perform {context : Context} {operation : Operation} (reachable : Reachable context)
      (admissible : operation.Admissible) : Reachable (context.perform operation).1
  /-- What a flush hands to the hook of an environment. -/
  | handed {emitter : Emitter} (reachable : Reachable emitter.context)
      (callers : emitter.callerDefaults.Constructible) (environment : Environment) :
      Reachable (emitter.installDefaults environment).1
  /-- What a flush hands to an outlet. -/
  | delivered {emitter : Emitter} {surroundings : Surroundings}
      (reachable : Reachable emitter.context) (callers : emitter.callerDefaults.Constructible)
      (hook : (emitter.flush surroundings).environment.Admissible) :
      Reachable (emitter.flush surroundings).delivery.capture.context
  /-- What a flush leaves for the next cycle. -/
  | flushed {emitter : Emitter} {surroundings : Surroundings}
      (reachable : Reachable emitter.context) (callers : emitter.callerDefaults.Constructible)
      (hook : (emitter.flush surroundings).environment.Admissible) :
      Reachable (emitter.flush surroundings).emitter.context

theorem Context.Reachable.run {context : Context} {operations : List Operation}
    (reachable : context.Reachable) (admissible : ∀ operation ∈ operations, operation.Admissible) :
    (context.run operations).1.Reachable := by
  induction operations generalizing context with
  | nil => exact reachable
  | cons operation rest ih =>
      obtain ⟨first, others⟩ := List.forall_mem_cons.mp admissible
      exact ih (reachable.perform first) others

/-! ## A flush keeps the layers sound -/

namespace Layers.Sound

variable {emitter : Emitter}

theorem installDefaults (sound : emitter.context.layers.Sound)
    (callers : emitter.callerDefaults.WellFormed) (environment : Environment) :
    (emitter.installDefaults environment).1.layers.Sound := by
  have environmentWellFormed := environment.wellFormed_dimensionSet
  have installs := emitter.installs_installDefaults environment
  generalize emitter.installDefaults environment = installed at installs
  cases installs with
  | layered room =>
      exact sound.withDefaults (environmentWellFormed.overlay callers.distinct room.1) room.2
  | alone reason noRoom accepts => exact sound.withDefaults callers accepts
  | unrestored reason unrestored noRoom refuses => exact sound

theorem renewed {context : Context} (sound : context.layers.Sound) (keepDimensions : Bool) :
    (context.renewed keepDimensions).layers.Sound := by
  cases keepDimensions with
  | true => exact sound
  | false => exact sound.reset true

theorem delivered (sound : emitter.context.layers.Sound)
    (callers : emitter.callerDefaults.WellFormed) {surroundings : Surroundings}
    (hook : (emitter.flush surroundings).environment.Admissible) :
    (emitter.flush surroundings).delivery.capture.context.layers.Sound :=
  (sound.installDefaults callers (emitter.flush surroundings).environment).run hook

theorem flushed (sound : emitter.context.layers.Sound)
    (callers : emitter.callerDefaults.WellFormed) {surroundings : Surroundings}
    (hook : (emitter.flush surroundings).environment.Admissible) :
    (emitter.flush surroundings).emitter.context.layers.Sound :=
  (sound.delivered callers hook).renewed emitter.keepsDimensions

end Layers.Sound

/-! ## Reachable contexts -/

namespace Context.Reachable

/-- **The layers of a reachable context are sound.** -/
theorem sound {context : Context} (reachable : context.Reachable) : context.layers.Sound := by
  induction reachable with
  | ofDefaults constructible =>
      exact .ofDefaults constructible.wellFormed
  | perform _ admissible ih => exact ih.perform admissible
  | handed _ callers environment ih =>
      exact ih.installDefaults callers.wellFormed environment
  | delivered _ callers hook ih =>
      exact ih.delivered callers.wellFormed hook
  | flushed _ callers hook ih =>
      exact ih.flushed callers.wellFormed hook

/-- **A document can hold every dimension set of a reachable context**: each of them names nothing
twice and has at most `DimensionSet.capacity` names, in the context as in the document. -/
theorem dimensions_fit {context : Context} (reachable : context.Reachable) :
    (∀ set ∈ context.dimensions, set.names.Nodup ∧ set.size ≤ DimensionSet.capacity) ∧
      ∀ now, ∀ names ∈ (context.document now).dimensionSets,
        names.Nodup ∧ names.length ≤ DimensionSet.capacity := by
  have fit : ∀ set ∈ context.dimensions,
      set.names.Nodup ∧ set.size ≤ DimensionSet.capacity := by
    intro set member
    have wellFormed := reachable.sound.wellFormed_of_mem_emitted member
    exact ⟨wellFormed.distinct, wellFormed.fits⟩
  refine ⟨fit, ?_⟩
  intro now names member
  obtain ⟨set, emitted, same⟩ := List.mem_map.mp member
  subst same
  rw [← DimensionSet.size_eq_length_names]
  exact fit set emitted

/-- A set put by the hook of an environment, over defaults that hold the service name of that
environment. -/
theorem dimensions_fit_hook :
    let stage : DimensionSet := ⟨[("Stage", "beta")]⟩
    let route : DimensionSet := ⟨[("Route", "buy"), ("Stage", "prod")]⟩
    let environment : Environment := ⟨none, some "checkout", none, [.putDimensions route], .console⟩
    let emitter := Emitter.ofContext (.supplied 0) (.ofDefaults stage)
    let surroundings : Surroundings := ⟨⟨0⟩, fun _ => none, ⟨.atOnce, .ok environment⟩, environment⟩
    let context := (emitter.flush surroundings).delivery.capture.context
    context.Reachable ∧
      context.dimensions =
        [⟨[("ServiceName", "checkout"), ("Stage", "prod"), ("Route", "buy")]⟩] ∧
      ∀ set ∈ context.dimensions, set.names.Nodup ∧ set.size ≤ DimensionSet.capacity := by
  intro stage route environment emitter surroundings context
  have stageBuilds : DimensionSet.ofPairs stage.entries = .ok stage := by decide
  have routeBuilds : DimensionSet.ofPairs route.entries = .ok route := by decide
  have hook : (emitter.flush surroundings).environment.Admissible := by
    intro operation member set given
    obtain rfl := List.mem_singleton.mp member
    obtain rfl := List.mem_singleton.mp given
    exact .ofPairs routeBuilds
  have reachable : context.Reachable :=
    .delivered (.ofDefaults (.ofPairs stageBuilds)) (.ofPairs stageBuilds) hook
  exact ⟨reachable, by decide, reachable.dimensions_fit.1⟩

end Context.Reachable

end MetricEmitter
