import MetricEmitter.Emitter
import MetricEmitter.Proofs.Context.Operation

/-!
# Installing the defaults for an environment

At a flush the dimensions of the environment go under the defaults of the
caller, and the result goes under the active sets. Either union may be too
large, and then the defaults of the caller are to stand alone, if they fit.
`Emitter.Installs` lists the three outcomes with the condition of each, and
`installs_installDefaults` says that there are no others.

The dimensions of an environment have three names at most, so they always make a
well-formed set (`Environment.wellFormed_dimensionSet`).
-/

set_option autoImplicit false

namespace MetricEmitter

/-! ## The dimensions of an environment -/

/-- The dimensions of an environment: its fields that are there and not empty, the log group first,
then the service name, then the service type. -/
def Environment.dimensionSet (environment : Environment) : DimensionSet :=
  ⟨environment.dimensionPairs⟩

/-- The names of the dimensions of an environment are among three, in their order. -/
theorem Environment.names_dimensionSet (environment : Environment) :
    environment.dimensionSet.names.Sublist ["LogGroup", "ServiceName", "ServiceType"] := by
  have chosen : ∀ fields : List (String × Option String),
      ((fields.filterMap fun field =>
        (field.2.filter fun value => !value.isEmpty).map fun value => (field.1, value)).map
          Prod.fst).Sublist (fields.map Prod.fst) := by
    intro fields
    induction fields with
    | nil => exact List.Sublist.refl _
    | cons field rest ih =>
        rw [List.filterMap_cons]
        cases field.2.filter fun value => !value.isEmpty with
        | none => exact ih.cons _
        | some value => exact ih.cons_cons _
  exact chosen environment.fields

theorem Environment.wellFormed_dimensionSet (environment : Environment) :
    environment.dimensionSet.WellFormed := by
  have sublist := environment.names_dimensionSet
  refine ⟨sublist.nodup (by decide), ?_⟩
  rw [DimensionSet.size_eq_length_names]
  exact sublist.length_le.trans (by decide)

theorem Environment.ofPairs_dimensionPairs (environment : Environment) :
    DimensionSet.ofPairs environment.dimensionPairs = .ok environment.dimensionSet :=
  DimensionSet.ofPairs_entries environment.wellFormed_dimensionSet

namespace Emitter

/-- The dimensions of an environment under the defaults of the caller. -/
def layeredDefaults (emitter : Emitter) (environment : Environment) : DimensionSet :=
  environment.dimensionSet.overlay emitter.callerDefaults

/-- There is room for the dimensions of an environment: a document can hold them with the defaults
of the caller, and both under the active sets. -/
def HasRoomFor (emitter : Emitter) (environment : Environment) : Prop :=
  environment.dimensionSet.unionSize emitter.callerDefaults ≤ DimensionSet.capacity ∧
    emitter.context.layers.Accepts (emitter.layeredDefaults environment)

def contextOver (emitter : Emitter) (defaults : DimensionSet) : Context :=
  { emitter.context with layers := emitter.context.layers.withDefaults defaults }

/-- What becomes of the context when the defaults for an environment are installed, and what is
reported. -/
inductive Installs (emitter : Emitter) (environment : Environment) :
    Context × List Notice → Prop where
  | layered (room : emitter.HasRoomFor environment) :
      Installs emitter environment (emitter.contextOver (emitter.layeredDefaults environment),
        [.defaultsInstalled (emitter.layeredDefaults environment).names])
  | alone (reason : DimensionError) (noRoom : ¬emitter.HasRoomFor environment)
      (accepts : emitter.context.layers.Accepts emitter.callerDefaults) :
      Installs emitter environment
        (emitter.contextOver emitter.callerDefaults, [.environmentDropped reason])
  | unrestored (reason unrestored : DimensionError) (noRoom : ¬emitter.HasRoomFor environment)
      (refuses : ¬emitter.context.layers.Accepts emitter.callerDefaults) :
      Installs emitter environment
        (emitter.context, [.environmentDropped reason, .defaultsNotRestored unrestored])

/-- Other defaults are set exactly when the layers accept them. -/
theorem setDefaultDimensions_cases (emitter : Emitter) (set : DimensionSet) :
    (emitter.context.layers.Accepts set ∧
      emitter.context.setDefaultDimensions set = .ok (emitter.contextOver set)) ∨
    ∃ reason, ¬emitter.context.layers.Accepts set ∧
      emitter.context.setDefaultDimensions set = .error reason := by
  unfold Context.setDefaultDimensions
  cases outcome : emitter.context.layers.setDefaults set with
  | ok changed =>
      obtain ⟨accepts, same⟩ := Layers.setDefaults_eq_ok_iff.mp outcome
      subst same
      exact Or.inl ⟨accepts, rfl⟩
  | error reason =>
      refine Or.inr ⟨reason, ?_, rfl⟩
      intro accepts
      rw [Layers.setDefaults_eq_ok_iff.mpr ⟨accepts, rfl⟩] at outcome
      cases outcome

/-- The dimensions of an environment are put under the defaults of the caller exactly when there is
room for them. -/
theorem layered_cases (emitter : Emitter) (environment : Environment) :
    (emitter.HasRoomFor environment ∧ emitter.layered environment =
      .ok (emitter.layeredDefaults environment,
        emitter.contextOver (emitter.layeredDefaults environment))) ∨
    ∃ reason, ¬emitter.HasRoomFor environment ∧ emitter.layered environment = .error reason := by
  unfold layered
  rw [environment.ofPairs_dimensionPairs]
  dsimp only
  cases merged : environment.dimensionSet.merge emitter.callerDefaults with
  | error reason =>
      refine Or.inr ⟨reason, ?_, rfl⟩
      intro room
      rw [DimensionSet.merge_eq_ok_iff.mpr ⟨room.1, rfl⟩] at merged
      cases merged
  | ok defaults =>
      obtain ⟨fits, same⟩ := DimensionSet.merge_eq_ok_iff.mp merged
      subst same
      dsimp only
      rcases emitter.setDefaultDimensions_cases (emitter.layeredDefaults environment) with
        ⟨accepts, outcome⟩ | ⟨reason, refuses, outcome⟩
      · refine Or.inl ⟨⟨fits, accepts⟩, ?_⟩
        rw [← layeredDefaults, outcome]
      · refine Or.inr ⟨reason, fun room => refuses room.2, ?_⟩
        rw [← layeredDefaults, outcome]

/-- **The defaults for an environment are layered, those of the caller alone, or as they were.** -/
theorem installs_installDefaults (emitter : Emitter) (environment : Environment) :
    emitter.Installs environment (emitter.installDefaults environment) := by
  unfold installDefaults
  rcases emitter.layered_cases environment with ⟨room, outcome⟩ | ⟨reason, noRoom, outcome⟩
  · rw [outcome]
    exact .layered room
  · rw [outcome]
    dsimp only
    rcases emitter.setDefaultDimensions_cases emitter.callerDefaults with
      ⟨accepts, restored⟩ | ⟨unrestored, refuses, restored⟩
    · rw [restored]
      exact .alone reason noRoom accepts
    · rw [restored]
      exact .unrestored reason unrestored noRoom refuses

end Emitter

end MetricEmitter
