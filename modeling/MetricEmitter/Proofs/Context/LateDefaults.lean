import MetricEmitter.Proofs.Context.Operation

/-!
# Default dimensions are bound late

What is stored of the active sets does not depend on the default dimensions.
These can have two effects only: an operation is refused because of them, and
they are emitted. So contexts that differ in the defaults alone
(`Context.bare`) differ in nothing else after an operation that has the same
outcome on both (`Context.bare_perform`).

Without defaults there is more room, and nothing is refused that was accepted
(`Context.perform_bare`). The operations of a run that were accepted can
therefore be done again on a context without defaults. After them the defaults
of the run are accepted at once, since the layers are sound, and the result is
the context at which the run arrived (`Context.defaults_bind_late`). At what
point of the run they were set makes no difference.
-/

set_option autoImplicit false

namespace MetricEmitter

/-- Layers without default dimensions. -/
def Layers.bare (layers : Layers) : Layers :=
  layers.withDefaults .empty

/-- A context without default dimensions. -/
def Context.bare (context : Context) : Context :=
  { context with layers := context.layers.bare }

/-! ## Layers that differ in the defaults -/

namespace Layers

variable {first second changed other : Layers}

theorem active_eq_of_bare_eq (alike : first.bare = second.bare) : first.active = second.active := by
  have same : first.bare.active = second.bare.active := congrArg Layers.active alike
  exact same

theorem defaultsApply_eq_of_bare_eq (alike : first.bare = second.bare) :
    first.defaultsApply = second.defaultsApply := by
  have same : first.bare.defaultsApply = second.bare.defaultsApply :=
    congrArg Layers.defaultsApply alike
  exact same

/-- What an operation makes of the layers, apart from the defaults, does not depend on the
defaults. -/
theorem bare_unchecked (layers : Layers) (operation : Operation) :
    (layers.unchecked operation).bare = (layers.bare.unchecked operation).bare := by
  cases operation <;> rfl

/-- Of layers that differ in the defaults alone, an operation that both accept makes layers that
differ in the defaults alone. -/
theorem bare_after {operation : Operation} (alike : first.bare = second.bare)
    (accepted : first.after operation = .ok changed)
    (acceptedToo : second.after operation = .ok other) : changed.bare = other.bare := by
  rw [after_eq_ok accepted, after_eq_ok acceptedToo, bare_unchecked first, bare_unchecked second,
    alike]

end Layers

/-! ## Contexts that differ in the defaults -/

namespace Context

variable {first second : Context}

/-- An operation that may be refused, if it has the same outcome on both contexts. -/
theorem bare_settle (operation : Operation) (alike : first.bare = second.bare)
    (sameOutcome :
      (first.settle (first.withLayers (first.layers.after operation))).2.refusal.isSome =
        (second.settle (second.withLayers (second.layers.after operation))).2.refusal.isSome) :
    (first.settle (first.withLayers (first.layers.after operation))).1.bare =
      (second.settle (second.withLayers (second.layers.after operation))).1.bare := by
  have layers : first.layers.bare = second.layers.bare := congrArg Context.layers alike
  cases outcome : first.layers.after operation with
  | error reason =>
      rw [outcome] at sameOutcome
      cases other : second.layers.after operation with
      | error otherReason => exact alike
      | ok changed =>
          rw [other] at sameOutcome
          cases sameOutcome
  | ok changed =>
      rw [outcome] at sameOutcome
      cases other : second.layers.after operation with
      | error otherReason =>
          rw [other] at sameOutcome
          cases sameOutcome
      | ok otherChanged =>
          change { first.bare with layers := changed.bare } =
            { second.bare with layers := otherChanged.bare }
          rw [alike, Layers.bare_after layers outcome other]

/-- What is recorded does not depend on the dimensions. -/
theorem bare_record (context : Context) (metric : String) (sample : Float)
    (unit : Option MetricUnit) :
    (context.record metric sample unit).1.bare =
      (context.bare.record metric sample unit).1 := by
  have series : context.bare.series metric = context.series metric := rfl
  unfold record
  rw [series]
  split
  · split <;> rfl
  · rfl

/-- **An operation that has the same outcome on contexts that differ in the defaults alone makes
contexts that differ in the defaults alone.** -/
theorem bare_perform {operation : Operation} (alike : first.bare = second.bare)
    (sameOutcome : (first.perform operation).2.refusal.isSome =
      (second.perform operation).2.refusal.isSome) :
    (first.perform operation).1.bare = (second.perform operation).1.bare := by
  cases operation with
  | putDimensions set => exact bare_settle (.putDimensions set) alike sameOutcome
  | setDimensionsOverDefaults sets =>
      exact bare_settle (.setDimensionsOverDefaults sets) alike sameOutcome
  | setDefaultDimensions set =>
      exact bare_settle (.setDefaultDimensions set) alike sameOutcome
  | setDimensions sets =>
      exact congrArg (fun context : Context =>
        { context with layers := context.layers.replace sets }) alike
  | resetDimensions keepDefaults =>
      exact congrArg (fun context : Context =>
        { context with layers := context.layers.reset keepDefaults }) alike
  | record metric sample unit =>
      change (first.record metric sample unit).1.bare = (second.record metric sample unit).1.bare
      rw [bare_record, bare_record, alike]
  | putProperty name value =>
      exact congrArg (fun context : Context => context.putProperty name value) alike
  | setNamespace name => exact congrArg (fun context : Context => context.setNamespace name) alike
  | setTimestamp instant =>
      exact congrArg (fun context : Context => context.setTimestamp instant) alike
  | preview => exact alike

end Context

/-! ## Without defaults there is more room -/

/-- **Layers without defaults accept every operation that is accepted over defaults**, unless it
sets default dimensions. -/
theorem Layers.Sound.after_bare {layers changed : Layers} {operation : Operation}
    (sound : layers.Sound) (admissible : operation.Admissible)
    (setsNone : operation.newDefaults = none) (accepted : layers.after operation = .ok changed) :
    ∃ other, layers.bare.after operation = .ok other := by
  have alone (set : DimensionSet) (wellFormed : set.WellFormed) :
      DimensionSet.empty.unionSize set ≤ DimensionSet.capacity := by
    rw [← DimensionSet.size_overlay _ wellFormed.distinct,
      DimensionSet.empty_overlay wellFormed.distinct]
    exact wellFormed.fits
  cases operation with
  | putDimensions set =>
      obtain ⟨last, extended, _, _⟩ := put_eq_ok_iff.mp accepted
      have wellFormed := wellFormed_of_extendedLast sound.active
        (admissible set List.mem_cons_self).wellFormed extended
      exact ⟨_, put_eq_ok_iff.mpr ⟨last, extended, fun _ => alone last wellFormed, rfl⟩⟩
  | setDimensionsOverDefaults sets =>
      refine ⟨_, replaceOverDefaults_eq_ok_iff.mpr ⟨?_, rfl⟩⟩
      intro set member
      exact alone set (admissible set member).wellFormed
  | setDefaultDimensions set => cases setsNone
  | _ => exact ⟨_, rfl⟩

namespace Context

variable {context : Context}

theorem bare_of_defaults_eq (without : context.layers.defaults = .empty) :
    context.bare = context := by
  obtain ⟨namespaceName, properties, ⟨active, defaults, applies⟩, timestamp, metrics⟩ := context
  cases without
  rfl

/-- **An operation that is accepted over defaults does the same without them**, unless it sets
default dimensions. -/
theorem perform_bare {operation : Operation} (sound : context.layers.Sound)
    (admissible : operation.Admissible) (setsNone : operation.newDefaults = none)
    (accepted : (context.perform operation).2.refusal = none) :
    (context.bare.perform operation).2.refusal = none ∧
      (context.bare.perform operation).1 = (context.perform operation).1.bare := by
  obtain ⟨changed, after⟩ := refusal_eq_none_iff.mp accepted
  have acceptedToo : (context.bare.perform operation).2.refusal = none :=
    refusal_eq_none_iff.mpr (sound.after_bare admissible setsNone after)
  refine ⟨acceptedToo, ?_⟩
  have sameOutcome : (context.bare.perform operation).2.refusal.isSome =
      (context.perform operation).2.refusal.isSome := by
    rw [acceptedToo, accepted]
  have without : (context.bare.perform operation).1.layers.defaults = .empty :=
    context.bare.defaults_perform setsNone
  rw [← bare_of_defaults_eq without]
  exact bare_perform rfl sameOutcome

/-! ## Doing the accepted operations again -/

/-- The operations of a run that are accepted, without those that set default dimensions. -/
def repeatable (context : Context) : List Operation → List Operation
  | [] => []
  | operation :: rest =>
      let performed := context.perform operation
      if performed.2.refusal.isNone && operation.newDefaults.isNone then
        operation :: performed.1.repeatable rest
      else performed.1.repeatable rest

/-- No operation is refused when all are done in turn. -/
def TakesAll (context : Context) : List Operation → Prop
  | [] => True
  | operation :: rest =>
      (context.perform operation).2.refusal = none ∧ (context.perform operation).1.TakesAll rest

theorem takesAll_append {earlier later : List Operation} (takes : context.TakesAll earlier)
    (takesToo : (context.run earlier).1.TakesAll later) : context.TakesAll (earlier ++ later) := by
  induction earlier generalizing context with
  | nil => exact takesToo
  | cons operation rest ih => exact ⟨takes.1, ih takes.2 takesToo⟩

theorem run_append (context : Context) (earlier later : List Operation) :
    (context.run (earlier ++ later)).1 = ((context.run earlier).1.run later).1 := by
  induction earlier generalizing context with
  | nil => rfl
  | cons operation rest ih => exact ih (context.perform operation).1

/-- An operation that is refused, or that sets default dimensions, changes the defaults at most. -/
theorem bare_perform_of_skipped {operation : Operation}
    (skipped : (context.perform operation).2.refusal = none → operation.newDefaults ≠ none) :
    (context.perform operation).1.bare = context.bare := by
  have performs := context.performs operation
  cases outcome : context.layers.after operation with
  | error reason =>
      generalize context.perform operation = performed at performs
      cases performs with
      | accepted layers unrefused => cases layers.symm.trans outcome
      | refused layers => rfl
  | ok changed =>
      have sets := skipped (refusal_eq_none_iff.mpr ⟨changed, outcome⟩)
      cases operation with
      | setDefaultDimensions set =>
          obtain ⟨_, same⟩ := Layers.setDefaults_eq_ok_iff.mp outcome
          subst same
          change (context.settle
            (context.withLayers (context.layers.after (.setDefaultDimensions set)))).1.bare = _
          rw [outcome]
          rfl
      | _ => exact absurd rfl sets

/-- **The accepted operations of a run are accepted again without defaults, and make the same of the
context**, apart from the defaults. -/
theorem run_repeatable (sound : context.layers.Sound) {operations : List Operation}
    (admissible : ∀ operation ∈ operations, operation.Admissible) :
    context.bare.TakesAll (context.repeatable operations) ∧
      (context.bare.run (context.repeatable operations)).1 = (context.run operations).1.bare := by
  induction operations generalizing context with
  | nil => exact ⟨trivial, rfl⟩
  | cons operation rest ih =>
      obtain ⟨first, others⟩ := List.forall_mem_cons.mp admissible
      have later := ih (sound.perform first) others
      by_cases again : (context.perform operation).2.refusal = none ∧ operation.newDefaults = none
      · obtain ⟨accepted, setsNone⟩ := again
        obtain ⟨acceptedToo, same⟩ := perform_bare sound first setsNone accepted
        have listed : context.repeatable (operation :: rest) =
            operation :: (context.perform operation).1.repeatable rest := by
          simp [repeatable, accepted, setsNone]
        rw [listed]
        refine ⟨⟨acceptedToo, ?_⟩, ?_⟩
        · rw [same]
          exact later.1
        · change ((context.bare.perform operation).1.run _).1 = _
          rw [same]
          exact later.2
      · have skipped : (context.perform operation).2.refusal = none →
            operation.newDefaults ≠ none := fun accepted setsNone => again ⟨accepted, setsNone⟩
        have left : context.repeatable (operation :: rest) =
            (context.perform operation).1.repeatable rest := by
          simp only [repeatable, Bool.and_eq_true, Option.isNone_iff_eq_none]
          rw [if_neg again]
        rw [left, ← bare_perform_of_skipped skipped]
        exact later

/-- Default dimensions that fit under every active set can be put under them at once. -/
theorem perform_setDefaults_bare (sound : context.layers.Sound) :
    (context.bare.perform (.setDefaultDimensions context.layers.defaults)).2.refusal = none ∧
      (context.bare.perform (.setDefaultDimensions context.layers.defaults)).1 = context := by
  have accepts : context.layers.bare.Accepts context.layers.defaults :=
    (sound.accepts_iff sound.defaults).mpr sound.room
  have after : context.bare.layers.after (.setDefaultDimensions context.layers.defaults) =
      .ok context.layers := Layers.setDefaults_eq_ok_iff.mpr ⟨accepts, rfl⟩
  refine ⟨refusal_eq_none_iff.mpr ⟨context.layers, after⟩, ?_⟩
  change (context.bare.settle (context.bare.withLayers
    (context.bare.layers.after (.setDefaultDimensions context.layers.defaults)))).1 = context
  rw [after]
  rfl

/-- **When default dimensions are set makes no difference**: the accepted operations of a run can be
done again without any defaults, and then those at which the run arrived be set, without a refusal
and with the same result. -/
theorem defaults_bind_late {defaults : DimensionSet} (constructible : defaults.Constructible)
    {operations : List Operation} (admissible : ∀ operation ∈ operations, operation.Admissible) :
    let arrived := ((Context.ofDefaults defaults).run operations).1
    let repeated := (Context.ofDefaults defaults).repeatable operations ++
      [.setDefaultDimensions arrived.layers.defaults]
    Context.new.TakesAll repeated ∧ (Context.new.run repeated).1 = arrived := by
  intro arrived repeated
  have starts : (Context.ofDefaults defaults).layers.Sound := .ofDefaults constructible.wellFormed
  have sound : arrived.layers.Sound := starts.run admissible
  obtain ⟨takes, same⟩ := run_repeatable starts admissible
  obtain ⟨accepted, restored⟩ := perform_setDefaults_bare sound
  rw [← same] at accepted restored
  refine ⟨takesAll_append takes ⟨accepted, trivial⟩, ?_⟩
  rw [run_append]
  exact restored

/-- A set of thirty names that defaults are in the way of, twice, and two sets put before and after
other defaults: two of the five operations are done again, and the last defaults come third. -/
theorem defaults_bind_late_refused :
    let stage : DimensionSet := ⟨[("Stage", "beta")]⟩
    let zone : DimensionSet := ⟨[("Zone", "a"), ("Route", "any")]⟩
    let route : DimensionSet := ⟨[("Route", "buy")]⟩
    let call : DimensionSet := ⟨[("Call", "pay"), ("Stage", "prod")]⟩
    let wide : DimensionSet :=
      ⟨(List.range 30).map fun index => (String.singleton (Char.ofNat (65 + index)), "")⟩
    let operations : List Operation := [.putDimensions wide, .putDimensions route,
      .setDefaultDimensions zone, .putDimensions call, .setDimensionsOverDefaults [wide]]
    let arrived := ((Context.ofDefaults stage).run operations).1
    let repeated := (Context.ofDefaults stage).repeatable operations ++
      [.setDefaultDimensions arrived.layers.defaults]
    (arrived.layers.defaults = zone ∧ arrived.dimensions =
        [⟨[("Zone", "a"), ("Route", "buy"), ("Call", "pay"), ("Stage", "prod")]⟩]) ∧
      repeated.length = 3 ∧ Context.new.TakesAll repeated ∧
        (Context.new.run repeated).1 = arrived := by
  intro stage zone route call wide operations
  have wellFormed : ∀ set ∈ [stage, zone, route, call, wide], set.WellFormed := by
    intro set member
    simp only [List.mem_cons, List.not_mem_nil, or_false] at member
    rcases member with rfl | rfl | rfl | rfl | rfl <;>
      exact ⟨by decide +kernel, by decide +kernel⟩
  have admissible : ∀ operation ∈ operations, operation.Admissible := by
    intro operation member set given
    have listed : set ∈ [stage, zone, route, call, wide] := by
      simp only [operations, List.mem_cons, List.not_mem_nil, or_false] at member
      rcases member with rfl | rfl | rfl | rfl | rfl <;>
        simp only [Operation.sets, List.mem_cons, List.not_mem_nil, or_false] at given <;>
        simp [given]
    exact (wellFormed set listed).constructible
  have late := @defaults_bind_late stage (wellFormed stage List.mem_cons_self).constructible
    operations admissible
  exact ⟨⟨by decide +kernel, by decide +kernel⟩, by decide +kernel, late.1, late.2⟩

end Context

end MetricEmitter
