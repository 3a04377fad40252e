import MetricEmitter.Proofs.Emitter.Runs

/-!
# The default dimensions of a document

A flush puts the dimensions of the environment under the caller defaults, and
both under the active sets, if the names are not too many (`Layers.RoomFor`).
Otherwise the caller defaults are to stand alone. The context then still holds
the dimensions of an earlier environment, and nothing but the history of the
emitter says that it accepts the caller defaults in their place: as long as no
hook changes the default dimensions, those of the context have all names of the
caller defaults, with the values the caller gave them (`Emitter.Consistent`).
What fits with the former under each active set fits with the latter.

So an environment is dropped without a trace, and `Session.flush_dimensions`
says what the dimensions of a document are made from.
-/

set_option autoImplicit false

namespace MetricEmitter

/-! ## What a hook leaves alone -/

/-- The hook of an environment leaves the default dimensions of a context as they are. -/
def Environment.KeepsDefaults (environment : Environment) (context : Context) : Prop :=
  (context.run environment.hook).1.layers.defaults = context.layers.defaults

/-- The hook of an environment leaves the dimensions of a context as they are. -/
def Environment.KeepsLayers (environment : Environment) (context : Context) : Prop :=
  (context.run environment.hook).1.layers = context.layers

theorem Environment.keepsLayers_of_nil {environment : Environment} (idle : environment.hook = [])
    (context : Context) : environment.KeepsLayers context := by
  rw [KeepsLayers, idle]
  rfl

theorem Context.defaults_renewed (context : Context) (keepDimensions : Bool) :
    (context.renewed keepDimensions).layers.defaults = context.layers.defaults := by
  cases keepDimensions <;> rfl

/-! ## Room -/

/-- Two sets of defaults have together, and as far as the defaults apply also with each active set,
no more names than a document can hold. -/
def Layers.RoomFor (layers : Layers) (lower upper : DimensionSet) : Prop :=
  (lower.nameSet ∪ upper.nameSet).card ≤ DimensionSet.capacity ∧
    (layers.defaultsApply = true → ∀ set ∈ layers.active,
      (lower.nameSet ∪ upper.nameSet ∪ set.nameSet).card ≤ DimensionSet.capacity)

instance (layers : Layers) (lower upper : DimensionSet) : Decidable (layers.RoomFor lower upper) :=
  inferInstanceAs (Decidable (_ ∧ (_ → ∀ set ∈ layers.active, _)))

namespace Emitter

theorem Grounded.hasRoomFor_iff {emitter : Emitter} (grounded : emitter.Grounded)
    (environment : Environment) :
    emitter.HasRoomFor environment ↔
      emitter.context.layers.RoomFor environment.dimensionSet emitter.callerDefaults := by
  have environments := environment.wellFormed_dimensionSet
  have callers := grounded.callers.wellFormed
  rw [HasRoomFor, Layers.RoomFor,
    ← DimensionSet.unionSize_eq_card environments.distinct callers.distinct]
  apply and_congr_right
  intro fits
  have layered := environments.overlay callers.distinct fits
  rw [layeredDefaults, grounded.context.sound.accepts_iff layered, DimensionSet.nameSet_overlay]

/-! ## The invariant -/

/-- The default dimensions of the context hold the caller defaults. -/
structure Consistent (emitter : Emitter) : Prop extends emitter.Grounded where
  inherited : ∀ name value, emitter.callerDefaults.value? name = some value →
    emitter.context.layers.defaults.value? name = some value

theorem Made.consistent {emitter : Emitter} {asked : DimensionSet} (made : emitter.Made asked) :
    emitter.Consistent := by
  obtain ⟨grounded, callers, defaults⟩ := made.grounded
  refine ⟨grounded, ?_⟩
  intro name value held
  rw [defaults, ← callers]
  exact held

namespace Consistent

variable {emitter : Emitter}

/-- **The caller defaults can always be restored.** -/
theorem accepts (consistent : emitter.Consistent) :
    emitter.context.layers.Accepts emitter.callerDefaults := by
  have sound := consistent.context.sound
  have names : emitter.callerDefaults.nameSet ⊆ emitter.context.layers.defaults.nameSet := by
    intro name member
    rw [DimensionSet.mem_nameSet, ← DimensionSet.value?_isSome_iff] at member ⊢
    obtain ⟨value, held⟩ := Option.isSome_iff_exists.mp member
    exact Option.isSome_iff_exists.mpr ⟨value, consistent.inherited name value held⟩
  rw [sound.accepts_iff consistent.callers.wellFormed]
  intro applies active member
  exact (Finset.card_le_card (Finset.union_subset_union_left names)).trans
    (sound.room applies active member)

/-- **The defaults for an environment are layered if there is room, and otherwise those of the
caller.** -/
theorem installDefaults_cases (consistent : emitter.Consistent) (environment : Environment) :
    (emitter.context.layers.RoomFor environment.dimensionSet emitter.callerDefaults ∧
      (emitter.installDefaults environment).1 =
        emitter.contextOver (emitter.layeredDefaults environment)) ∨
    (¬emitter.context.layers.RoomFor environment.dimensionSet emitter.callerDefaults ∧
      (emitter.installDefaults environment).1 = emitter.contextOver emitter.callerDefaults) := by
  rw [← consistent.hasRoomFor_iff environment]
  have installs := emitter.installs_installDefaults environment
  generalize emitter.installDefaults environment = installed at installs
  cases installs with
  | layered room => exact Or.inl ⟨room, rfl⟩
  | alone reason noRoom accepts => exact Or.inr ⟨noRoom, rfl⟩
  | unrestored reason unrestored noRoom refuses => exact absurd consistent.accepts refuses

theorem value?_installDefaults (consistent : emitter.Consistent) (environment : Environment)
    {name value : String} (held : emitter.callerDefaults.value? name = some value) :
    (emitter.installDefaults environment).1.layers.defaults.value? name = some value := by
  have callers := consistent.callers.wellFormed
  rcases consistent.installDefaults_cases environment with ⟨_, installed⟩ | ⟨_, installed⟩
  · rw [installed]
    change (environment.dimensionSet.overlay emitter.callerDefaults).value? name = some value
    rw [DimensionSet.value?_overlay _ callers.distinct, held, Option.some_or]
  · rw [installed]
    exact held

theorem step {session : Session} {step : Step} (consistent : session.emitter.Consistent)
    (permitted : session.emitter.Permits Environment.KeepsDefaults step) :
    (session.step step).1.emitter.Consistent := by
  refine ⟨consistent.toGrounded.step permitted, ?_⟩
  cases step with
  | keepDimensions keep => exact consistent.inherited
  | setTimeout timeout => exact consistent.inherited
  | perform operation =>
      change ∀ name value,
        (session.emitter.perform operation).1.callerDefaults.value? name = some value →
        (session.emitter.perform operation).1.context.layers.defaults.value? name = some value
      rcases session.emitter.perform_cases operation with
        ⟨changed, accepted, _, layers, callers⟩ | ⟨_, _, _, same⟩
      · rw [layers, callers, Layers.defaults_after accepted]
        cases operation.newDefaults with
        | none => exact consistent.inherited
        | some set => exact fun _ _ held => held
      · rw [same]
        exact consistent.inherited
  | flush surroundings =>
      intro name value held
      have installed := consistent.value?_installDefaults
        (session.emitter.flush surroundings).environment held
      rw [← permitted.2] at installed
      -- What comes after the hook concerns the time, the samples and the active sets.
      change ((session.emitter.prepared _ _).1.renewed _).layers.defaults.value? name = some value
      rw [Context.defaults_renewed]
      exact installed

/-- **A run in which no hook changes the default dimensions keeps an emitter consistent.** -/
theorem run {session : Session} {steps : List Step} (consistent : session.emitter.Consistent)
    (follows : session.Follows Environment.KeepsDefaults steps) :
    (session.run steps).1.emitter.Consistent :=
  Session.run_invariant (fun _ _ => Consistent.step) consistent follows

end Consistent

end Emitter

/-! ## The dimensions of a document -/

/-- What the dimensions of a document are made from: the dimensions of an environment, the defaults
of a caller, and the active sets of layers. -/
structure Context.MadeFrom (written : Context) (environment callers : DimensionSet)
    (layers : Layers) : Prop where
  /-- The environment is under the caller if there is room. -/
  layered : layers.RoomFor environment callers →
    written.layers.defaults = environment.overlay callers
  /-- Otherwise the caller defaults stand alone. -/
  alone : ¬layers.RoomFor environment callers → written.layers.defaults = callers
  withoutDefaults : layers.defaultsApply = false → written.dimensions = layers.active
  onlyDefaults : layers.defaultsApply = true → layers.active = [] →
    written.dimensions =
      if written.layers.defaults.isEmpty then [] else [written.layers.defaults]
  overDefaults : layers.defaultsApply = true → layers.active ≠ [] →
    written.dimensions = layers.active.map written.layers.defaults.overlay
  /-- A caller default wins over the environment. -/
  callerWins : ∀ name value, callers.value? name = some value →
    written.layers.defaults.value? name = some value
  /-- An active set wins over the defaults. -/
  activeWins : ∀ set ∈ layers.active, ∀ name value, set.value? name = some value →
    (written.layers.defaults.overlay set).value? name = some value

/-- A flush whose hook leaves the dimensions alone makes the document from the environment, the
caller defaults and the active sets it finds. -/
theorem Emitter.Consistent.madeFrom {emitter : Emitter} (consistent : emitter.Consistent)
    {surroundings : Surroundings}
    (keeps : (emitter.flush surroundings).environment.KeepsLayers
      (emitter.installDefaults (emitter.flush surroundings).environment).1) :
    (emitter.flush surroundings).delivery.capture.context.MadeFrom
      (emitter.flush surroundings).environment.dimensionSet emitter.callerDefaults
      emitter.context.layers := by
  have wellFormed := consistent.context.sound.active
  set environment := (emitter.flush surroundings).environment
  set written := (emitter.flush surroundings).delivery.capture.context
  have installed : written.layers = (emitter.installDefaults environment).1.layers := keeps
  obtain ⟨defaults, based, layered, alone⟩ :
      ∃ defaults, written.layers = emitter.context.layers.withDefaults defaults ∧
        (emitter.context.layers.RoomFor environment.dimensionSet emitter.callerDefaults →
          defaults = emitter.layeredDefaults environment) ∧
        (¬emitter.context.layers.RoomFor environment.dimensionSet emitter.callerDefaults →
          defaults = emitter.callerDefaults) := by
    rcases consistent.installDefaults_cases environment with ⟨room, outcome⟩ | ⟨noRoom, outcome⟩
    · exact ⟨emitter.layeredDefaults environment,
        installed.trans (congrArg Context.layers outcome), fun _ => rfl,
        fun noRoom => absurd room noRoom⟩
    · exact ⟨emitter.callerDefaults, installed.trans (congrArg Context.layers outcome),
        fun room => absurd room noRoom, fun _ => rfl⟩
  have same : written.layers.defaults = defaults := congrArg Layers.defaults based
  refine ⟨fun room => same.trans (layered room), fun noRoom => same.trans (alone noRoom),
    ?_, ?_, ?_, ?_, ?_⟩
  · intro aside
    rw [Context.dimensions, based]
    exact Layers.emitted_alone aside
  · intro applies empty
    rw [Context.dimensions, same, based]
    exact Layers.emitted_of_nil applies empty
  · intro applies some
    rw [Context.dimensions, same, based]
    exact Layers.emitted_of_ne_nil applies some
  · intro name value held
    rw [installed]
    exact consistent.value?_installDefaults environment held
  · intro set member name value held
    rw [DimensionSet.value?_overlay _ (wellFormed set member).distinct, held, Option.some_or]

namespace Session

/-- **A document is made from the environment of its flush, the defaults the caller asked for last,
and the active sets**, whatever environments the flushes before used, provided that no hook changed
the default dimensions. -/
theorem flush_dimensions {session : Session} {first : DimensionSet}
    (made : session.emitter.Made first) {steps : List Step}
    (follows : session.Follows Environment.KeepsDefaults steps) (surroundings : Surroundings)
    (keeps : ((session.run steps).1.emitter.flush surroundings).environment.KeepsLayers
      ((session.run steps).1.emitter.installDefaults
        ((session.run steps).1.emitter.flush surroundings).environment).1) :
    let reached := (session.run steps).1.emitter
    let flushed := reached.flush surroundings
    let written := flushed.delivery.capture.context
    written.MadeFrom flushed.environment.dimensionSet (session.askedDefaults first steps)
        reached.context.layers ∧
      flushed.delivery.capture.text = (written.document surroundings.now).text ∧
      (written.document surroundings.now).dimensionSets =
        written.dimensions.map DimensionSet.names := by
  intro reached flushed written
  obtain ⟨grounded, callers, defaults⟩ := made.grounded
  have starts : session.emitter.Consistent := by
    refine ⟨grounded, ?_⟩
    intro name value held
    rw [defaults, ← callers]
    exact held
  rw [← callers, ← callerDefaults_run]
  exact ⟨(starts.run follows).madeFrom keeps, rfl, rfl⟩

/-- An environment for which there is no room any more, since sets were put after the flush of
another one: neither of them is in the document. -/
theorem flush_dimensions_dropped :
    let stage : DimensionSet := ⟨[("Stage", "beta")]⟩
    let wide : DimensionSet :=
      ⟨(List.range 28).map fun index => (String.singleton (Char.ofNat (65 + index)), "")⟩
    let logged : Environment := ⟨some "checkout-logs", none, none, [], .console⟩
    let named : Environment := ⟨some "checkout-logs", some "checkout", none, [], .console⟩
    let around (environment : Environment) : Surroundings :=
      ⟨⟨0⟩, fun _ => none, ⟨.atOnce, .ok environment⟩, environment⟩
    let session : Session :=
      ⟨.ofContext (.supplied 0) (.ofDefaults stage), ⟨.unlimited, []⟩⟩
    let steps : List Step := [.flush (around logged), .perform (.putDimensions wide)]
    let reached := (session.run steps).1.emitter
    let written := (reached.flush (around named)).delivery.capture.context
    reached.context.layers.defaults = ⟨[("LogGroup", "checkout-logs"), ("Stage", "beta")]⟩ ∧
      written.layers.defaults = stage ∧ written.dimensions = [stage.overlay wide] := by
  intro stage wide logged named around session steps reached written
  have stageBuilds : DimensionSet.ofPairs stage.entries = .ok stage := by decide
  have wideWellFormed : wide.WellFormed := ⟨by decide +kernel, by decide +kernel⟩
  have made : session.emitter.Made stage :=
    .ofContext (.supplied 0) (.ofDefaults (.ofPairs stageBuilds))
  have follows : session.Follows Environment.KeepsDefaults steps := by
    refine ⟨⟨List.forall_mem_nil _, rfl⟩, ?_, trivial⟩
    intro set given
    obtain rfl := List.mem_singleton.mp given
    exact wideWellFormed.constructible
  have asked : session.askedDefaults stage steps = stage := by decide +kernel
  have before : reached.context.layers.defaults =
      ⟨[("LogGroup", "checkout-logs"), ("Stage", "beta")]⟩ := by decide +kernel
  have active : reached.context.layers.active = [wide] := by decide +kernel
  have applies : reached.context.layers.defaultsApply = true := by decide +kernel
  have noRoom : ¬reached.context.layers.RoomFor named.dimensionSet stage := by decide +kernel
  have madeFrom : written.MadeFrom named.dimensionSet (session.askedDefaults stage steps)
      reached.context.layers :=
    (flush_dimensions made follows (around named) (Environment.keepsLayers_of_nil rfl _)).1
  clear_value reached written
  rw [asked] at madeFrom
  have alone : written.layers.defaults = stage := madeFrom.alone noRoom
  refine ⟨before, alone, ?_⟩
  rw [← alone, ← List.map_singleton, ← active]
  exact madeFrom.overDefaults applies (active ▸ List.cons_ne_nil wide [])

end Session

end MetricEmitter
