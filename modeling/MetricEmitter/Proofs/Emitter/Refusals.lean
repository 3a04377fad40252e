import MetricEmitter.Proofs.Context.Refusals
import MetricEmitter.Proofs.Emitter.Runs

/-!
# Refusals are neither too strict nor too lax

An operation is refused exactly when the layers it makes without counting names
would emit a set that a document could not hold, and a refusal changes nothing
(`Context.Guards`). This holds of every context a program can come to hold,
since the layers are sound: what is accepted leaves them sound, so that a
document can hold what they emit, and what is refused has a combination behind
it that a document could not hold.

An emitter hands operations on to its context, and answers as the context does.
It keeps default dimensions twice, in the context and as those of the caller. A
refusal leaves both as they were, and default dimensions that are accepted are
put in both places (`Session.refuses_exactly_excess`).
-/

set_option autoImplicit false

namespace MetricEmitter

open DimensionSet (capacity)

/-! ## Contexts -/

/-- An operation on a context, with its outcome, as a check of the number of names makes it: it is
refused if a document could not hold what would be emitted, and otherwise done as if nothing had
been counted. -/
structure Context.Guards (context : Context) (operation : Operation)
    (outcome : Context × Reply) : Prop where
  refused_iff : outcome.2.refusal.isSome = true ↔
    ∃ set ∈ (context.layers.unchecked operation).emitted, capacity < set.nameSet.card
  unchanged : outcome.2.refusal.isSome = true → outcome.1 = context
  carriedOut : outcome.2.refusal = none → outcome.1.layers = context.layers.unchecked operation

/-- **An operation on a reachable context is refused exactly when it has to be.** -/
theorem Context.Reachable.guards {context : Context} (reachable : context.Reachable)
    {operation : Operation} (admissible : operation.Admissible) :
    context.Guards operation (context.perform operation) := by
  have sound := reachable.sound
  have performs := context.performs operation
  generalize context.perform operation = performed at performs
  cases performs with
  | @accepted changed reply layers unrefused =>
      have done := Layers.after_eq_ok layers
      have silent : ¬reply.refusal.isSome = true := by
        rw [unrefused]
        exact Bool.false_ne_true
      refine ⟨iff_of_false silent ?_, fun refused => absurd refused silent, fun _ => done⟩
      rintro ⟨set, emitted, tooMany⟩
      rw [← done] at emitted
      have wellFormed := (sound.after admissible layers).wellFormed_of_mem_emitted emitted
      rw [DimensionSet.card_nameSet wellFormed.distinct] at tooMany
      exact Nat.not_lt.mpr wellFormed.fits tooMany
  | @refused reason layers =>
      obtain ⟨names, offends, _⟩ := sound.offends admissible layers
      exact ⟨iff_of_true rfl (Layers.exists_tooLarge (sound.firstTooLarge offends)), fun _ => rfl,
        fun unrefused => nomatch unrefused⟩

/-! ## Emitters -/

/-- An operation on an emitter, with its outcome: the context guards itself, a refusal changes
nothing, and default dimensions that are accepted stand in the context and with the caller. -/
structure Emitter.Guards (emitter : Emitter) (operation : Operation)
    (outcome : Emitter × Reply) : Prop where
  context : emitter.context.Guards operation (outcome.1.context, outcome.2)
  unchanged : outcome.2.refusal.isSome = true → outcome.1 = emitter
  settled : ∀ set, operation = .setDefaultDimensions set → outcome.2.refusal = none →
    outcome.1.context.layers.defaults = set ∧ outcome.1.callerDefaults = set

theorem Emitter.Grounded.guards {emitter : Emitter} (grounded : emitter.Grounded)
    {operation : Operation} (admissible : operation.Admissible) :
    emitter.Guards operation (emitter.perform operation) := by
  have guards := grounded.context.guards admissible
  rcases emitter.perform_cases operation with
    ⟨changed, accepted, answer, layers, callers⟩ | ⟨reason, _, answer, same⟩
  · refine ⟨guards, fun refused => ?_, ?_⟩
    · rw [answer] at refused
      cases refused
    · intro set asked _
      subst asked
      exact ⟨(congrArg Layers.defaults layers).trans (Layers.defaults_after accepted), callers⟩
  · refine ⟨guards, fun _ => same, ?_⟩
    intro set _ unrefused
    rw [answer] at unrefused
    cases unrefused

/-- **Operations are refused exactly when a document could not hold the dimensions, and refusals
change nothing**: on every reachable context, and on every emitter after a run of any length. -/
theorem Session.refuses_exactly_excess :
    (∀ context : Context, context.Reachable → ∀ operation : Operation, operation.Admissible →
      context.Guards operation (context.perform operation)) ∧
    ∀ (session : Session) (asked : DimensionSet), session.emitter.Made asked →
      ∀ (rule : Environment → Context → Prop) (steps : List Step), session.Follows rule steps →
      ∀ operation : Operation, operation.Admissible →
        (session.run steps).1.emitter.Guards operation
          ((session.run steps).1.emitter.perform operation) := by
  constructor
  · intro context reachable operation admissible
    exact reachable.guards admissible
  · intro session asked made rule steps follows operation admissible
    exact (made.grounded.1.run follows).guards admissible

/-- After a flush that put a service name under the caller defaults, and 28 active names: three
default dimensions are one too many and change nothing, and two are taken. -/
theorem Session.refuses_exactly_excess_defaults :
    let stage : DimensionSet := ⟨[("Stage", "beta")]⟩
    let wide : DimensionSet :=
      ⟨(List.range 28).map fun index => (String.singleton (Char.ofNat (65 + index)), "")⟩
    let zone : DimensionSet := ⟨[("Stage", "prod"), ("Zone", "a")]⟩
    let rack : DimensionSet := ⟨[("Stage", "prod"), ("Zone", "a"), ("Rack", "7")]⟩
    let named : Environment := ⟨none, some "checkout", none, [], .console⟩
    let around : Surroundings := ⟨⟨0⟩, fun _ => none, ⟨.atOnce, .ok named⟩, named⟩
    let session : Session := ⟨.ofContext (.supplied 0) (.ofDefaults stage), ⟨.unlimited, []⟩⟩
    let steps : List Step := [.flush around, .perform (.putDimensions wide)]
    let reached := (session.run steps).1.emitter
    (reached.context.layers.defaults = ⟨[("ServiceName", "checkout"), ("Stage", "beta")]⟩ ∧
      reached.callerDefaults = stage) ∧
    ((∃ set ∈ (reached.context.layers.unchecked (.setDefaultDimensions rack)).emitted,
        capacity < set.nameSet.card) ∧
      (reached.perform (.setDefaultDimensions rack)).1 = reached) ∧
    (reached.perform (.setDefaultDimensions zone)).1.context.layers.defaults = zone ∧
      (reached.perform (.setDefaultDimensions zone)).1.callerDefaults = zone := by
  intro stage wide zone rack named around session steps reached
  have stageWellFormed : stage.WellFormed := ⟨by decide, by decide⟩
  have wideWellFormed : wide.WellFormed := ⟨by decide +kernel, by decide +kernel⟩
  have zoneWellFormed : zone.WellFormed := ⟨by decide, by decide⟩
  have rackWellFormed : rack.WellFormed := ⟨by decide, by decide⟩
  have made : session.emitter.Made stage :=
    .ofContext (.supplied 0) (.ofDefaults stageWellFormed.constructible)
  have follows : session.Follows (fun _ _ => True) steps :=
    ⟨⟨List.forall_mem_nil _, trivial⟩,
      List.forall_mem_singleton.mpr wideWellFormed.constructible, trivial⟩
  have refusing : reached.Guards (.setDefaultDimensions rack)
      (reached.perform (.setDefaultDimensions rack)) :=
    refuses_exactly_excess.2 session stage made _ steps follows _
      (List.forall_mem_singleton.mpr rackWellFormed.constructible)
  have taking : reached.Guards (.setDefaultDimensions zone)
      (reached.perform (.setDefaultDimensions zone)) :=
    refuses_exactly_excess.2 session stage made _ steps follows _
      (List.forall_mem_singleton.mpr zoneWellFormed.constructible)
  have before : reached.context.layers.defaults =
      ⟨[("ServiceName", "checkout"), ("Stage", "beta")]⟩ := by decide +kernel
  have callers : reached.callerDefaults = stage := by decide +kernel
  have refused : (reached.perform (.setDefaultDimensions rack)).2.refusal.isSome = true := by
    decide +kernel
  have taken : (reached.perform (.setDefaultDimensions zone)).2.refusal = none := by decide +kernel
  clear_value reached
  exact ⟨⟨before, callers⟩,
    ⟨refusing.context.refused_iff.mp refused, refusing.unchanged refused⟩,
    taking.settled zone rfl taken⟩

end MetricEmitter
