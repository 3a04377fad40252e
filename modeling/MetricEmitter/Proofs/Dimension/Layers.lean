import MetricEmitter.Dimension.Layers
import MetricEmitter.Proofs.Dimension.Constructible

/-!
# Sound layers

`Layers.emitted` unites the default set with each active set and counts no
names. A document can hold what it returns because of an invariant of the layers
(`Layers.Sound`): every set is well formed, and as long as the defaults apply
there is room for them under each active set.

For each operation that may be refused, one statement says exactly when it is
accepted and what it then returns (`put_eq_ok_iff`,
`replaceOverDefaults_eq_ok_iff`, `setDefaults_eq_ok_iff`). From these follows
that every operation keeps the layers sound. Taking the defaults away needs no
check: there is then nothing to make room for.
-/

set_option autoImplicit false

namespace MetricEmitter.Layers

open DimensionSet (capacity)

variable {layers changed : Layers} {set : DimensionSet} {sets : List DimensionSet}

/-- Every set is well formed, and defaults that apply fit under every active set. -/
structure Sound (layers : Layers) : Prop where
  active : ∀ set ∈ layers.active, set.WellFormed
  defaults : layers.defaults.WellFormed
  room : layers.defaultsApply = true →
    ∀ set ∈ layers.active, (layers.defaults.nameSet ∪ set.nameSet).card ≤ capacity

/-- A set fits as the defaults: a document can hold it under every active set, as far as the
defaults apply. -/
def Accepts (layers : Layers) (set : DimensionSet) : Prop :=
  layers.defaultsApply = true → ∀ active ∈ layers.active, set.unionSize active ≤ capacity

/-- The same active sets over other defaults. -/
def withDefaults (layers : Layers) (set : DimensionSet) : Layers :=
  { layers with defaults := set }

/-! ## What the operations accept -/

theorem excess_eq_none_iff {base : DimensionSet} :
    excess base sets = none ↔ ∀ set ∈ sets, base.unionSize set ≤ capacity := by
  simp [excess, List.find?_eq_none]

/-- A check that is made only while the defaults apply. -/
theorem checked_eq_none_iff {applies : Bool} {base : DimensionSet} :
    (if applies then excess base sets else none) = none ↔
      (applies = true → ∀ set ∈ sets, base.unionSize set ≤ capacity) := by
  cases applies with
  | false => simp
  | true => simpa using excess_eq_none_iff

/-- **A set is put when it can be united with the last active set and the result fits over the
defaults**, as far as they apply. -/
theorem put_eq_ok_iff :
    layers.put set = .ok changed ↔
      ∃ last, layers.extendedLast set = .ok last ∧
        (layers.defaultsApply = true → layers.defaults.unionSize last ≤ capacity) ∧
        { layers with active := layers.active.dropLast ++ [last] } = changed := by
  unfold put
  cases extension : layers.extendedLast set with
  | error reason => simp
  | ok last =>
      have check : (if layers.defaultsApply then excess layers.defaults [last] else none) = none ↔
          (layers.defaultsApply = true → layers.defaults.unionSize last ≤ capacity) := by
        rw [checked_eq_none_iff, List.forall_mem_singleton]
      simp only [Except.ok.injEq, exists_eq_left']
      rw [← check]
      split
      · rename_i count exceeded
        simp [exceeded]
      · rename_i fits
        simp [fits]

/-- **Sets are put over the defaults when each of them fits.** -/
theorem replaceOverDefaults_eq_ok_iff :
    layers.replaceOverDefaults sets = .ok changed ↔
      (∀ set ∈ sets, layers.defaults.unionSize set ≤ capacity) ∧
        { layers with active := sets, defaultsApply := true } = changed := by
  unfold replaceOverDefaults
  rw [← excess_eq_none_iff]
  split
  · rename_i count exceeded
    simp [exceeded]
  · rename_i fits
    simp [fits]

/-- **Other defaults are accepted when they fit under every active set**, as far as they apply. -/
theorem setDefaults_eq_ok_iff :
    layers.setDefaults set = .ok changed ↔
      layers.Accepts set ∧ layers.withDefaults set = changed := by
  unfold setDefaults Accepts
  rw [← checked_eq_none_iff]
  split
  · rename_i count exceeded
    simp [exceeded]
  · rename_i fits
    simp [fits, withDefaults]

/-- Uniting a set with the last active set gives a well-formed set, or nothing. -/
theorem wellFormed_of_extendedLast {last : DimensionSet}
    (active : ∀ held ∈ layers.active, held.WellFormed) (wellFormed : set.WellFormed)
    (extended : layers.extendedLast set = .ok last) : last.WellFormed := by
  unfold extendedLast at extended
  split at extended
  · cases extended
    exact wellFormed
  · rename_i previous found
    obtain ⟨room, same⟩ := DimensionSet.merge_eq_ok_iff.mp extended
    subst same
    exact (active previous (List.mem_of_getLast? found)).overlay wellFormed.distinct room

/-! ## What layers emit -/

theorem emitted_alone (aside : layers.defaultsApply = false) : layers.emitted = layers.active := by
  rw [emitted, aside]

theorem emitted_of_nil (applies : layers.defaultsApply = true) (empty : layers.active = []) :
    layers.emitted = if layers.defaults.isEmpty then [] else [layers.defaults] := by
  rw [emitted, applies, empty]

theorem emitted_of_ne_nil (applies : layers.defaultsApply = true) (some : layers.active ≠ []) :
    layers.emitted = layers.active.map layers.defaults.overlay := by
  obtain ⟨active, defaults, defaultsApply⟩ := layers
  cases active with
  | nil => exact absurd rfl some
  | cons set rest => rw [emitted, applies]

namespace Sound

/-! ## Every operation keeps the layers sound -/

theorem ofDefaults (wellFormed : set.WellFormed) : (Layers.ofDefaults set).Sound where
  active := List.forall_mem_nil _
  defaults := wellFormed
  room := fun _ => List.forall_mem_nil _

theorem put (sound : layers.Sound) (wellFormed : set.WellFormed)
    (accepted : layers.put set = .ok changed) : changed.Sound := by
  obtain ⟨last, extended, fits, same⟩ := put_eq_ok_iff.mp accepted
  subst same
  have lastWellFormed := wellFormed_of_extendedLast sound.active wellFormed extended
  refine ⟨?_, sound.defaults, ?_⟩
  · intro held member
    rcases List.mem_append.mp member with earlier | new
    · exact sound.active held (List.mem_of_mem_dropLast earlier)
    · rw [List.mem_singleton] at new
      exact new ▸ lastWellFormed
  · intro applies held member
    rcases List.mem_append.mp member with earlier | new
    · exact sound.room applies held (List.mem_of_mem_dropLast earlier)
    · rw [List.mem_singleton] at new
      subst new
      rw [← DimensionSet.unionSize_eq_card sound.defaults.distinct lastWellFormed.distinct]
      exact fits applies

theorem replace (sound : layers.Sound) (wellFormed : ∀ set ∈ sets, set.WellFormed) :
    (layers.replace sets).Sound where
  active := wellFormed
  defaults := sound.defaults
  room := fun applies => Bool.noConfusion applies

theorem replaceOverDefaults (sound : layers.Sound) (wellFormed : ∀ set ∈ sets, set.WellFormed)
    (accepted : layers.replaceOverDefaults sets = .ok changed) : changed.Sound := by
  obtain ⟨fits, same⟩ := replaceOverDefaults_eq_ok_iff.mp accepted
  subst same
  refine ⟨wellFormed, sound.defaults, ?_⟩
  intro _ held member
  rw [← DimensionSet.unionSize_eq_card sound.defaults.distinct (wellFormed held member).distinct]
  exact fits held member

theorem reset (sound : layers.Sound) (keepDefaults : Bool) : (layers.reset keepDefaults).Sound where
  active := List.forall_mem_nil _
  defaults := sound.defaults
  room := fun _ => List.forall_mem_nil _

/-- Over sound layers, a well-formed set is accepted exactly when its names and those of each
active set together are not too many. -/
theorem accepts_iff (sound : layers.Sound) (wellFormed : set.WellFormed) :
    layers.Accepts set ↔ (layers.defaultsApply = true →
      ∀ active ∈ layers.active, (set.nameSet ∪ active.nameSet).card ≤ capacity) := by
  refine forall_congr' fun _ => forall₂_congr fun active member => ?_
  rw [DimensionSet.unionSize_eq_card wellFormed.distinct (sound.active active member).distinct]

theorem withDefaults (sound : layers.Sound) (wellFormed : set.WellFormed)
    (accepts : layers.Accepts set) : (layers.withDefaults set).Sound where
  active := sound.active
  defaults := wellFormed
  room := (sound.accepts_iff wellFormed).mp accepts

/-! ## What sound layers emit -/

/-- **A document can hold every set that sound layers emit.** -/
theorem wellFormed_of_mem_emitted (sound : layers.Sound) (member : set ∈ layers.emitted) :
    set.WellFormed := by
  unfold emitted at member
  split at member
  · exact sound.active set member
  · -- Without active sets the defaults stand alone, or there is no set at all.
    split at member
    · cases member
    · rw [List.mem_singleton] at member
      exact member ▸ sound.defaults
  · rename_i applies _
    obtain ⟨held, active, same⟩ := List.mem_map.mp member
    subst same
    have accepts := (sound.accepts_iff sound.defaults).mpr sound.room
    exact sound.defaults.overlay (sound.active held active).distinct
      (accepts applies held active)

end Sound

end MetricEmitter.Layers
