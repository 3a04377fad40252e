import MetricEmitter.Context.Operation
import MetricEmitter.Proofs.Dimension.Layers

/-!
# Operations and layers

Five of the operations concern the layers of a context, and `Layers.after` says
what each of them makes of the layers. An operation is refused exactly when
`Layers.after` gives an error, and then the whole context is as it was
(`Context.performs`). So what operations keep can be shown on the layers
alone: every operation whose sets a caller can come by keeps sound layers sound
(`Layers.Sound.perform`), and so does every sequence of them
(`Layers.Sound.run`).

What an operation would make of the layers if nobody counted names is
`Layers.unchecked`. An operation that is accepted does just that
(`Layers.after_eq_ok`).
-/

set_option autoImplicit false

namespace MetricEmitter

/-- The dimension sets an operation is given. -/
def Operation.sets : Operation → List DimensionSet
  | .putDimensions set => [set]
  | .setDimensions sets => sets
  | .setDimensionsOverDefaults sets => sets
  | .setDefaultDimensions set => [set]
  | _ => []

/-- The default dimensions an operation sets, if it sets them. -/
def Operation.newDefaults : Operation → Option DimensionSet
  | .setDefaultDimensions set => some set
  | _ => none

theorem Operation.mem_sets_of_newDefaults {set : DimensionSet} (operation : Operation)
    (asked : operation.newDefaults = some set) : set ∈ operation.sets := by
  cases operation with
  | setDefaultDimensions given =>
      obtain rfl := Option.some.inj asked
      exact List.mem_cons_self
  | _ => cases asked

/-- An operation is admissible when a caller can come by the sets it is given. -/
def Operation.Admissible (operation : Operation) : Prop :=
  ∀ set ∈ operation.sets, set.Constructible

/-- What an operation makes of the layers, if it is accepted. -/
def Layers.after (layers : Layers) : Operation → Except DimensionError Layers
  | .putDimensions set => layers.put set
  | .setDimensions sets => .ok (layers.replace sets)
  | .setDimensionsOverDefaults sets => layers.replaceOverDefaults sets
  | .resetDimensions keepDefaults => .ok (layers.reset keepDefaults)
  | .setDefaultDimensions set => layers.setDefaults set
  | _ => .ok layers

namespace Context

theorem layers_record (context : Context) (metric : String) (sample : Float)
    (unit : Option MetricUnit) : (context.record metric sample unit).1.layers = context.layers := by
  unfold record
  split
  · split <;> rfl
  · rfl

/-- What an operation does: it is accepted and makes of the layers what `Layers.after` says, or it
is refused and changes nothing. -/
inductive Performs (context : Context) (operation : Operation) : Context × Reply → Prop where
  | accepted {changed : Context} {reply : Reply}
      (layers : context.layers.after operation = .ok changed.layers)
      (unrefused : reply.refusal = none) : Performs context operation (changed, reply)
  | refused {reason : DimensionError}
      (layers : context.layers.after operation = .error reason) :
      Performs context operation (context, ⟨some reason, []⟩)

/-- The operations that may be refused are settled in one and the same way. -/
theorem performs_settle (context : Context) (operation : Operation) :
    context.Performs operation
      (context.settle (context.withLayers (context.layers.after operation))) := by
  cases outcome : context.layers.after operation with
  | ok changed => exact .accepted outcome rfl
  | error reason => exact .refused outcome

/-- **An operation is accepted or refused as `Layers.after` says.** -/
theorem performs (context : Context) (operation : Operation) :
    context.Performs operation (context.perform operation) := by
  cases operation with
  | putDimensions set => exact context.performs_settle (.putDimensions set)
  | setDimensionsOverDefaults sets =>
      exact context.performs_settle (.setDimensionsOverDefaults sets)
  | setDefaultDimensions set => exact context.performs_settle (.setDefaultDimensions set)
  | record metric sample unit =>
      refine .accepted ?_ rfl
      rw [layers_record]
      rfl
  | _ => exact .accepted rfl rfl

end Context

namespace Layers

variable {layers changed : Layers} {operation : Operation}

theorem Sound.after (sound : layers.Sound)
    (admissible : operation.Admissible) (accepted : layers.after operation = .ok changed) :
    changed.Sound := by
  have wellFormed : ∀ set ∈ operation.sets, set.WellFormed := fun set member =>
    (admissible set member).wellFormed
  cases operation with
  | putDimensions set => exact sound.put (wellFormed set List.mem_cons_self) accepted
  | setDimensionsOverDefaults sets => exact sound.replaceOverDefaults wellFormed accepted
  | setDefaultDimensions set =>
      obtain ⟨accepts, same⟩ := setDefaults_eq_ok_iff.mp accepted
      exact same ▸ sound.withDefaults (wellFormed set List.mem_cons_self) accepts
  | setDimensions sets =>
      cases accepted
      exact sound.replace wellFormed
  | resetDimensions keepDefaults =>
      cases accepted
      exact sound.reset keepDefaults
  | _ =>
      -- The other operations leave the layers alone.
      cases accepted
      exact sound

/-- **An operation keeps sound layers sound, whether it is accepted or refused.** -/
theorem Sound.perform {context : Context} (sound : context.layers.Sound)
    (admissible : operation.Admissible) : (context.perform operation).1.layers.Sound := by
  have performs := context.performs operation
  generalize context.perform operation = performed at performs
  cases performs with
  | accepted layers unrefused => exact sound.after admissible layers
  | refused layers => exact sound

theorem Sound.run {context : Context} {operations : List Operation} (sound : context.layers.Sound)
    (admissible : ∀ operation ∈ operations, operation.Admissible) :
    (context.run operations).1.layers.Sound := by
  induction operations generalizing context with
  | nil => exact sound
  | cons operation rest ih =>
      obtain ⟨first, others⟩ := List.forall_mem_cons.mp admissible
      exact ih (sound.perform first) others

/-! ## Operations that count nothing -/

/-- The last active set with a set united to it, or that set alone, whatever the number of
names. -/
def unitedLast (layers : Layers) (set : DimensionSet) : DimensionSet :=
  (layers.active.getLast?.map fun last => last.overlay set).getD set

/-- What an operation makes of the layers if nobody counts names. -/
def unchecked (layers : Layers) : Operation → Layers
  | .putDimensions set =>
      { layers with active := layers.active.dropLast ++ [layers.unitedLast set] }
  | .setDimensions sets => layers.replace sets
  | .setDimensionsOverDefaults sets => { layers with active := sets, defaultsApply := true }
  | .resetDimensions keepDefaults => layers.reset keepDefaults
  | .setDefaultDimensions set => layers.withDefaults set
  | _ => layers

theorem eq_unitedLast {set last : DimensionSet} (extended : layers.extendedLast set = .ok last) :
    last = layers.unitedLast set := by
  unfold extendedLast at extended
  unfold unitedLast
  cases found : layers.active.getLast? with
  | none =>
      rw [found] at extended
      exact (Except.ok.inj extended).symm
  | some previous =>
      rw [found] at extended
      exact (DimensionSet.merge_eq_ok_iff.mp extended).2.symm

/-- **An operation that is accepted does what it does when nobody counts names.** -/
theorem after_eq_ok (accepted : layers.after operation = .ok changed) :
    changed = layers.unchecked operation := by
  cases operation with
  | putDimensions set =>
      obtain ⟨last, extended, _, same⟩ := put_eq_ok_iff.mp accepted
      rw [← same, eq_unitedLast extended]
      rfl
  | setDimensionsOverDefaults sets => exact (replaceOverDefaults_eq_ok_iff.mp accepted).2.symm
  | setDefaultDimensions set => exact (setDefaults_eq_ok_iff.mp accepted).2.symm
  | _ => exact (Except.ok.inj accepted).symm

/-- An operation that is accepted leaves the defaults alone, unless it sets them. -/
theorem defaults_after (accepted : layers.after operation = .ok changed) :
    changed.defaults = operation.newDefaults.getD layers.defaults := by
  rw [after_eq_ok accepted]
  cases operation <;> rfl

end Layers

namespace Context

/-- An operation is accepted when `Layers.after` gives layers. -/
theorem refusal_eq_none_iff {context : Context} {operation : Operation} :
    (context.perform operation).2.refusal = none ↔
      ∃ changed, context.layers.after operation = .ok changed := by
  have performs := context.performs operation
  generalize context.perform operation = performed at performs
  cases performs with
  | accepted layers unrefused => simp [layers, unrefused]
  | refused layers => simp [layers]

/-- An operation that sets no default dimensions leaves them alone, accepted or refused. -/
theorem defaults_perform (context : Context) {operation : Operation}
    (setsNone : operation.newDefaults = none) :
    (context.perform operation).1.layers.defaults = context.layers.defaults := by
  have performs := context.performs operation
  generalize context.perform operation = performed at performs
  cases performs with
  | accepted layers unrefused =>
      rw [Layers.defaults_after layers, setsNone]
      rfl
  | refused layers => rfl

theorem defaults_run (context : Context) {operations : List Operation}
    (setNone : ∀ operation ∈ operations, operation.newDefaults = none) :
    (context.run operations).1.layers.defaults = context.layers.defaults := by
  induction operations generalizing context with
  | nil => rfl
  | cons operation rest ih =>
      obtain ⟨first, others⟩ := List.forall_mem_cons.mp setNone
      exact (ih (context.perform operation).1 others).trans (context.defaults_perform first)

end Context

end MetricEmitter
