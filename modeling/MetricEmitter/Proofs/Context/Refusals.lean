import MetricEmitter.Proofs.Context.Reachable

/-!
# Why an operation is refused

For an operation that is refused there is a combination of names that a document
could not hold (`Layers.Offends`). It is the first one among the sets the layers
would emit if nobody counted names (`Layers.Sound.firstTooLarge`).

A refusal counts the names of that combination, with one exception. Before a set
is put under the defaults it is united with the last active set, and if already
these two are too large together, the refusal counts them alone
(`Layers.countedNames`). So the count is that of the whole combination unless
there are defaults with names of their own (`Context.Reachable.refusal_counts`).
-/

set_option autoImplicit false

namespace MetricEmitter

namespace Layers

open DimensionSet (capacity)

variable {layers : Layers} {operation : Operation} {set : DimensionSet}
  {sets : List DimensionSet} {names : Finset String} {reason : DimensionError}

/-! ## The names of the layers -/

/-- The names of the defaults, as far as the defaults apply. -/
def appliedNames (layers : Layers) : Finset String :=
  if layers.defaultsApply then layers.defaults.nameSet else ∅

/-- The names of the last active set, if a set is active. -/
def lastNames (layers : Layers) : Finset String :=
  (layers.active.getLast?.map DimensionSet.nameSet).getD ∅

theorem nameSet_unitedLast (layers : Layers) (set : DimensionSet) :
    (layers.unitedLast set).nameSet = layers.lastNames ∪ set.nameSet := by
  unfold unitedLast lastNames
  cases layers.active.getLast? with
  | none => exact (Finset.empty_union _).symm
  | some last => exact DimensionSet.nameSet_overlay last set

/-- The last active set is extended as long as a document can hold the result, and otherwise the
names of both sets are counted. -/
theorem extendedLast_eq (active : ∀ held ∈ layers.active, held.WellFormed)
    (wellFormed : set.WellFormed) :
    layers.extendedLast set =
      if (layers.lastNames ∪ set.nameSet).card ≤ capacity then .ok (layers.unitedLast set)
      else .error (.tooMany (layers.lastNames ∪ set.nameSet).card) := by
  unfold extendedLast unitedLast lastNames
  cases found : layers.active.getLast? with
  | none =>
      have alone : (∅ ∪ set.nameSet).card ≤ capacity := by
        rw [Finset.empty_union]
        exact wellFormed.card_le
      exact (if_pos alone).symm
  | some last =>
      have distinct := (active last (List.mem_of_getLast? found)).distinct
      have count := DimensionSet.unionSize_eq_card distinct wellFormed.distinct
      change DimensionSet.merge last set = _
      rw [DimensionSet.merge, count]
      rfl

/-! ## The first combination that is too large -/

/-- The names of the first emitted set that a document cannot hold. -/
def firstTooLarge (layers : Layers) : Option (Finset String) :=
  (layers.emitted.map DimensionSet.nameSet).find? fun names => decide (capacity < names.card)

/-- Active sets are emitted with the names of the defaults, as far as the defaults apply. -/
theorem map_nameSet_emitted (some : layers.active ≠ []) :
    layers.emitted.map DimensionSet.nameSet =
      layers.active.map fun set => layers.appliedNames ∪ set.nameSet := by
  unfold appliedNames
  cases applies : layers.defaultsApply with
  | false => simp [emitted_alone applies]
  | true =>
      rw [emitted_of_ne_nil applies some, List.map_map]
      exact List.map_congr_left fun set _ => DimensionSet.nameSet_overlay layers.defaults set

theorem firstTooLarge_eq_some {earlier later : List DimensionSet} {offending : DimensionSet}
    (active : layers.active = earlier ++ offending :: later)
    (fit : ∀ set ∈ earlier, (layers.appliedNames ∪ set.nameSet).card ≤ capacity)
    (tooMany : capacity < (layers.appliedNames ∪ offending.nameSet).card) :
    layers.firstTooLarge = some (layers.appliedNames ∪ offending.nameSet) := by
  have started : layers.active ≠ [] := by
    rw [active]
    exact List.append_ne_nil_of_right_ne_nil _ (List.cons_ne_nil offending later)
  rw [firstTooLarge, map_nameSet_emitted started, List.find?_eq_some_iff_append]
  refine ⟨decide_eq_true tooMany, earlier.map fun set => layers.appliedNames ∪ set.nameSet,
    later.map fun set => layers.appliedNames ∪ set.nameSet, ?_, ?_⟩
  · rw [active, List.map_append, List.map_cons]
  · intro names member
    obtain ⟨set, before, same⟩ := List.mem_map.mp member
    subst same
    simpa using fit set before

theorem exists_tooLarge (found : layers.firstTooLarge = some names) :
    ∃ set ∈ layers.emitted, capacity < set.nameSet.card := by
  obtain ⟨set, emitted, same⟩ := List.mem_map.mp (List.mem_of_find?_eq_some found)
  have tooMany := List.find?_some found
  subst same
  exact ⟨set, emitted, of_decide_eq_true tooMany⟩

/-! ## Refusals -/

/-- A combination of names that an operation asks for and that a document could not hold, the first
one if there are several. -/
inductive Offends (layers : Layers) : Operation → Finset String → Prop where
  /-- A set, the last active set, and the defaults as far as they apply. -/
  | put (set : DimensionSet)
      (tooMany : capacity < (layers.appliedNames ∪ (layers.lastNames ∪ set.nameSet)).card) :
      Offends layers (.putDimensions set)
        (layers.appliedNames ∪ (layers.lastNames ∪ set.nameSet))
  /-- The first of several sets that is too large over the defaults. -/
  | replace (earlier : List DimensionSet) (offending : DimensionSet) (later : List DimensionSet)
      (fit : ∀ set ∈ earlier, (layers.defaults.nameSet ∪ set.nameSet).card ≤ capacity)
      (tooMany : capacity < (layers.defaults.nameSet ∪ offending.nameSet).card) :
      Offends layers (.setDimensionsOverDefaults (earlier ++ offending :: later))
        (layers.defaults.nameSet ∪ offending.nameSet)
  /-- The first active set that is too large over other defaults. -/
  | setDefaults (set : DimensionSet) {earlier : List DimensionSet} {offending : DimensionSet}
      {later : List DimensionSet} (applies : layers.defaultsApply = true)
      (active : layers.active = earlier ++ offending :: later)
      (fit : ∀ held ∈ earlier, (set.nameSet ∪ held.nameSet).card ≤ capacity)
      (tooMany : capacity < (set.nameSet ∪ offending.nameSet).card) :
      Offends layers (.setDefaultDimensions set) (set.nameSet ∪ offending.nameSet)

/-- The names that the refusal of an operation counts. If a set is too large together with the last
active set, the defaults are left out. -/
def countedNames (layers : Layers) (operation : Operation) (names : Finset String) :
    Finset String :=
  match operation with
  | .putDimensions set =>
      if capacity < (layers.lastNames ∪ set.nameSet).card then layers.lastNames ∪ set.nameSet
      else names
  | _ => names

theorem Offends.tooMany (offends : layers.Offends operation names) : capacity < names.card := by
  cases offends with
  | put set tooMany => exact tooMany
  | replace earlier offending later fit tooMany => exact tooMany
  | setDefaults set applies active fit tooMany => exact tooMany

/-- The size that is found to be too large is that of the first set that is. -/
theorem first_of_excess {base : DimensionSet} {count : Nat} (wellFormed : base.WellFormed)
    (setsWellFormed : ∀ set ∈ sets, set.WellFormed) (exceeded : excess base sets = some count) :
    ∃ earlier offending later, sets = earlier ++ offending :: later ∧
      (∀ set ∈ earlier, (base.nameSet ∪ set.nameSet).card ≤ capacity) ∧
      capacity < (base.nameSet ∪ offending.nameSet).card ∧
      count = (base.nameSet ∪ offending.nameSet).card := by
  have sizes : sets.map base.unionSize =
      sets.map fun set => (base.nameSet ∪ set.nameSet).card :=
    List.map_congr_left fun set member =>
      DimensionSet.unionSize_eq_card wellFormed.distinct (setsWellFormed set member).distinct
  rw [excess, sizes, List.find?_map, Option.map_eq_some_iff] at exceeded
  obtain ⟨offending, found, size⟩ := exceeded
  obtain ⟨tooMany, earlier, later, split, fit⟩ := List.find?_eq_some_iff_append.mp found
  refine ⟨earlier, offending, later, split, ?_, of_decide_eq_true tooMany, size.symm⟩
  intro set member
  simpa using fit set member

/-- A check that is made only while the defaults apply finds what is too large only then. -/
theorem checked_eq_some_iff {applies : Bool} {base : DimensionSet} {count : Nat} :
    (if applies then excess base sets else none) = some count ↔
      applies = true ∧ excess base sets = some count := by
  cases applies with
  | false => simp
  | true => simp

namespace Sound

theorem offends_of_put (sound : layers.Sound) (wellFormed : set.WellFormed)
    (refused : layers.put set = .error reason) :
    ∃ names, layers.Offends (.putDimensions set) names ∧
      reason = .tooMany (layers.countedNames (.putDimensions set) names).card := by
  have extension := extendedLast_eq sound.active wellFormed
  unfold Layers.put at refused
  by_cases union : (layers.lastNames ∪ set.nameSet).card ≤ capacity
  · -- The two sets fit together, so it is the defaults that make them too large.
    rw [if_pos union] at extension
    rw [extension] at refused
    dsimp only at refused
    split at refused
    · rename_i count exceeded
      obtain ⟨applies, exceeds⟩ := checked_eq_some_iff.mp exceeded
      have united := wellFormed_of_extendedLast sound.active wellFormed extension
      have size := DimensionSet.unionSize_eq_card sound.defaults.distinct united.distinct
      have counted := List.find?_some exceeds
      have found := List.mem_of_find?_eq_some exceeds
      rw [List.map_singleton, List.mem_singleton, size, nameSet_unitedLast] at found
      have names : layers.defaults.nameSet = layers.appliedNames := by
        rw [appliedNames, if_pos applies]
      rw [names] at found
      refine ⟨_, .put set (found ▸ of_decide_eq_true counted), ?_⟩
      rw [countedNames, if_neg (Nat.not_lt.mpr union), ← found]
      exact (Except.error.inj refused).symm
    · cases refused
  · rw [if_neg union] at extension
    rw [extension] at refused
    have tooMany := Nat.lt_of_not_le union
    refine ⟨_, .put set (tooMany.trans_le (Finset.card_le_card Finset.subset_union_right)), ?_⟩
    rw [countedNames, if_pos tooMany]
    exact (Except.error.inj refused).symm

theorem offends_of_replaceOverDefaults (sound : layers.Sound)
    (wellFormed : ∀ set ∈ sets, set.WellFormed)
    (refused : layers.replaceOverDefaults sets = .error reason) :
    ∃ names, layers.Offends (.setDimensionsOverDefaults sets) names ∧
      reason = .tooMany names.card := by
  unfold Layers.replaceOverDefaults at refused
  split at refused
  · rename_i count exceeded
    obtain ⟨earlier, offending, later, parts, fit, tooMany, size⟩ :=
      first_of_excess sound.defaults wellFormed exceeded
    subst parts
    refine ⟨_, .replace earlier offending later fit tooMany, ?_⟩
    rw [← size]
    exact (Except.error.inj refused).symm
  · cases refused

theorem offends_of_setDefaults (sound : layers.Sound) (wellFormed : set.WellFormed)
    (refused : layers.setDefaults set = .error reason) :
    ∃ names, layers.Offends (.setDefaultDimensions set) names ∧ reason = .tooMany names.card := by
  unfold Layers.setDefaults at refused
  split at refused
  · rename_i count exceeded
    obtain ⟨applies, exceeds⟩ := checked_eq_some_iff.mp exceeded
    obtain ⟨earlier, offending, later, parts, fit, tooMany, size⟩ :=
      first_of_excess wellFormed sound.active exceeds
    refine ⟨_, .setDefaults set applies parts fit tooMany, ?_⟩
    rw [← size]
    exact (Except.error.inj refused).symm
  · cases refused

/-- **A refusal has a combination of names behind it that a document could not hold.** -/
theorem offends (sound : layers.Sound) (admissible : operation.Admissible)
    (refused : layers.after operation = .error reason) :
    ∃ names, layers.Offends operation names ∧
      reason = .tooMany (layers.countedNames operation names).card := by
  have wellFormed : ∀ set ∈ operation.sets, set.WellFormed := fun set member =>
    (admissible set member).wellFormed
  cases operation with
  | putDimensions set => exact sound.offends_of_put (wellFormed set List.mem_cons_self) refused
  | setDimensionsOverDefaults sets =>
      exact sound.offends_of_replaceOverDefaults wellFormed refused
  | setDefaultDimensions set =>
      exact sound.offends_of_setDefaults (wellFormed set List.mem_cons_self) refused
  | _ => cases refused

/-- Sound layers have room for the defaults that apply under every active set. -/
theorem fits (sound : layers.Sound) {held : DimensionSet} (member : held ∈ layers.active) :
    (layers.appliedNames ∪ held.nameSet).card ≤ capacity := by
  have wellFormed := sound.active held member
  unfold appliedNames
  cases applies : layers.defaultsApply with
  | true => exact sound.room applies held member
  | false =>
      rw [if_neg Bool.false_ne_true, Finset.empty_union]
      exact wellFormed.card_le

/-- **The combination behind a refusal is the first one a document could not hold**, among those the
layers would emit after the operation. -/
theorem firstTooLarge (sound : layers.Sound) (offends : layers.Offends operation names) :
    (layers.unchecked operation).firstTooLarge = some names := by
  cases offends with
  | put set tooMany =>
      rw [← nameSet_unitedLast] at tooMany ⊢
      have earlierFit : ∀ held ∈ layers.active.dropLast,
          (layers.appliedNames ∪ held.nameSet).card ≤ capacity := fun held member =>
        sound.fits (List.mem_of_mem_dropLast member)
      have active : (layers.unchecked (.putDimensions set)).active =
          layers.active.dropLast ++ [layers.unitedLast set] := rfl
      exact firstTooLarge_eq_some active earlierFit tooMany
  | replace earlier offending later fit tooMany =>
      have active : (layers.unchecked
          (.setDimensionsOverDefaults (earlier ++ offending :: later))).active =
          earlier ++ offending :: later := rfl
      exact firstTooLarge_eq_some active fit tooMany
  | setDefaults set applies active fit tooMany =>
      have names : (layers.unchecked (.setDefaultDimensions set)).appliedNames = set.nameSet :=
        if_pos applies
      rw [← names] at fit tooMany ⊢
      exact firstTooLarge_eq_some active fit tooMany

end Sound

end Layers

namespace Context

open DimensionSet (capacity)

variable {context : Context} {operation : Operation} {reason : DimensionError}

/-- An operation is refused for the reason that `Layers.after` gives. -/
theorem refusal_eq_some_iff :
    (context.perform operation).2.refusal = some reason ↔
      context.layers.after operation = .error reason := by
  have performs := context.performs operation
  generalize context.perform operation = performed at performs
  cases performs with
  | accepted layers unrefused => simp [layers, unrefused]
  | refused layers => simp [layers, eq_comm]

/-- A set is put on top of defaults that have names of their own, and it is too large already with
the last active set. -/
def OverlooksDefaults (context : Context) (operation : Operation) : Prop :=
  ∃ set, operation = .putDimensions set ∧
    capacity < (context.layers.lastNames ∪ set.nameSet).card ∧
      ¬context.layers.appliedNames ⊆ context.layers.lastNames ∪ set.nameSet

/-- **A refusal counts the names of the first combination that a document could not hold**, except
that a set that is too large together with the last active set is counted without the defaults. -/
theorem Reachable.refusal_counts (reachable : context.Reachable)
    (admissible : operation.Admissible)
    (refused : (context.perform operation).2.refusal = some reason) :
    ∃ names, context.layers.Offends operation names ∧
      (context.layers.unchecked operation).firstTooLarge = some names ∧
      capacity < names.card ∧
      reason = .tooMany (context.layers.countedNames operation names).card ∧
      (reason = .tooMany names.card ↔ ¬context.OverlooksDefaults operation) := by
  have sound := reachable.sound
  obtain ⟨names, offends, counted⟩ :=
    sound.offends admissible (refusal_eq_some_iff.mp refused)
  refine ⟨names, offends, sound.firstTooLarge offends, offends.tooMany, counted, ?_⟩
  rw [counted, DimensionError.tooMany.injEq]
  cases offends with
  | replace earlier offending later fit tooMany =>
      refine iff_of_true rfl ?_
      rintro ⟨_, put, _⟩
      cases put
  | setDefaults set applies active fit tooMany =>
      refine iff_of_true rfl ?_
      rintro ⟨_, put, _⟩
      cases put
  | put set tooMany =>
      by_cases union : capacity < (context.layers.lastNames ∪ set.nameSet).card
      · have within : context.layers.lastNames ∪ set.nameSet ⊆
            context.layers.appliedNames ∪ (context.layers.lastNames ∪ set.nameSet) :=
          Finset.subset_union_right
        have same : (context.layers.lastNames ∪ set.nameSet).card =
            (context.layers.appliedNames ∪ (context.layers.lastNames ∪ set.nameSet)).card ↔
            context.layers.appliedNames ⊆ context.layers.lastNames ∪ set.nameSet := by
          rw [← Finset.union_eq_right, eq_comm (b := context.layers.lastNames ∪ set.nameSet)]
          exact ⟨fun sizes => Finset.eq_of_subset_of_card_le within sizes.ge,
            fun names => congrArg Finset.card names⟩
        rw [Layers.countedNames, if_pos union, same]
        constructor
        · rintro known ⟨_, put, _, overlooked⟩
          cases put
          exact overlooked known
        · intro noticed
          by_contra overlooked
          exact noticed ⟨set, rfl, union, overlooked⟩
      · rw [Layers.countedNames, if_neg union]
        refine iff_of_true rfl ?_
        rintro ⟨_, put, exceeds, _⟩
        cases put
        exact union exceeds

/-- Two sets over the defaults, of which the second is too large: it is counted with the
defaults. -/
theorem refusal_counts_second :
    let stage : DimensionSet := ⟨[("Stage", "beta")]⟩
    let wide : DimensionSet :=
      ⟨(List.range 30).map fun index => (String.singleton (Char.ofNat (65 + index)), "")⟩
    let operation : Operation := .setDimensionsOverDefaults [stage, wide]
    let context := Context.ofDefaults stage
    (context.perform operation).2.refusal = some (.tooMany 31) ∧
      ∃ names, context.layers.Offends operation names ∧ names.card = 31 := by
  intro stage wide operation context
  have stageWellFormed : stage.WellFormed := ⟨by decide, by decide⟩
  have wideWellFormed : wide.WellFormed := ⟨by decide +kernel, by decide +kernel⟩
  have admissible : operation.Admissible := List.forall_mem_cons.mpr
    ⟨stageWellFormed.constructible, List.forall_mem_singleton.mpr wideWellFormed.constructible⟩
  have reachable : context.Reachable := .ofDefaults stageWellFormed.constructible
  have refused : (context.perform operation).2.refusal = some (.tooMany 31) := by decide +kernel
  obtain ⟨names, offends, _, _, _, exact⟩ := reachable.refusal_counts admissible refused
  have noticed : ¬context.OverlooksDefaults (.setDimensionsOverDefaults [stage, wide]) := by
    rintro ⟨_, put, _⟩
    cases put
  exact ⟨refused, names, offends, (DimensionError.tooMany.inj (exact.mpr noticed)).symm⟩

/-- Two names are put beside 29 others, over a default: 32 names would come together, and the
refusal counts 31. -/
theorem refusal_counts_without_defaults :
    let stage : DimensionSet := ⟨[("Stage", "beta")]⟩
    let wide : DimensionSet :=
      ⟨(List.range 29).map fun index => (String.singleton (Char.ofNat (65 + index)), "")⟩
    let pair : DimensionSet := ⟨[("x", ""), ("y", "")]⟩
    let context := ((Context.ofDefaults stage).perform (.putDimensions wide)).1
    context.Reachable ∧ pair.Constructible ∧ context.layers = ⟨[wide], stage, true⟩ ∧
      (wide.nameSet ∪ pair.nameSet ∪ stage.nameSet).card = 32 ∧
      (context.layers.unchecked (.putDimensions pair)).firstTooLarge.map Finset.card = some 32 ∧
      (context.perform (.putDimensions pair)).2.refusal = some (.tooMany 31) := by
  intro stage wide pair context
  have stageWellFormed : stage.WellFormed := ⟨by decide, by decide⟩
  have wideWellFormed : wide.WellFormed := ⟨by decide +kernel, by decide +kernel⟩
  have pairWellFormed : pair.WellFormed := ⟨by decide, by decide⟩
  have admissible : (Operation.putDimensions wide).Admissible :=
    List.forall_mem_singleton.mpr wideWellFormed.constructible
  exact ⟨.perform (.ofDefaults stageWellFormed.constructible) admissible,
    pairWellFormed.constructible, by decide +kernel, by decide +kernel, by decide +kernel,
    by decide +kernel⟩

end Context

end MetricEmitter
