import MetricEmitter.Proofs.Context.LateDefaults
import MetricEmitter.Proofs.Context.Refusals
import MetricEmitter.Proofs.Dimension.Merge

/-!
# Putting dimension sets

A set that is put is united with the last active set, and the defaults are laid
under the result when a document is written. Since the overlay is associative,
the document lists the same as if the set were united with the last set it lists
(`Context.Reachable.put_extends_last`). Where the set is stored makes no
difference to what is emitted.

For the same reason putting is an action of merging: a set put after another is
their union put at once (`Layers.Sound.put_put_iff`). The names that need room
are the same both times, those of the defaults, of the last active set and of
all sets that are put (`Layers.Sound.put_eq_ok_iff_card`), and every smaller
combination that is checked on the way has its names among these. So any number
of sets can be put in turn exactly when their union can be put
(`Context.Reachable.puts_batch`).
-/

set_option autoImplicit false

namespace MetricEmitter

open DimensionSet (capacity)

/-! ## The last of several sets -/

theorem DimensionSet.eq_empty_of_isEmpty {set : DimensionSet} (bare : set.isEmpty = true) :
    set = .empty :=
  congrArg DimensionSet.mk (List.isEmpty_iff.mp bare)

/-- The sets with a further one united to the last of them, or with that one alone if there are
none. -/
def DimensionSet.extendLast (sets : List DimensionSet) (set : DimensionSet) : List DimensionSet :=
  sets.dropLast ++ [(sets.getLast?.map fun last => last.overlay set).getD set]

namespace DimensionSet

variable {first second set base : DimensionSet} {sets : List DimensionSet}

@[simp] theorem extendLast_nil (set : DimensionSet) : extendLast [] set = [set] := rfl

@[simp] theorem extendLast_concat (earlier : List DimensionSet) (last set : DimensionSet) :
    extendLast (earlier ++ [last]) set = earlier ++ [last.overlay set] := by
  simp [extendLast]

/-- Two sets united to the last one are their union united to it. -/
theorem extendLast_extendLast (wellFormed : ∀ held ∈ sets, held.WellFormed)
    (distinctFirst : first.names.Nodup) (distinctSecond : second.names.Nodup) :
    extendLast (extendLast sets first) second = extendLast sets (first.overlay second) := by
  rcases List.eq_nil_or_concat' sets with rfl | ⟨earlier, last, rfl⟩
  · rw [extendLast_nil, extendLast_nil]
    exact extendLast_concat [] first second
  · have lastWellFormed := wellFormed last (List.mem_append_right _ List.mem_cons_self)
    rw [extendLast_concat, extendLast_concat, extendLast_concat,
      overlay_assoc lastWellFormed.distinct distinctFirst distinctSecond]

/-- A set under all of several sets stays under the last one when that is extended. -/
theorem map_overlay_extendLast (started : sets ≠ []) (distinctBase : base.names.Nodup)
    (wellFormed : ∀ held ∈ sets, held.WellFormed) (distinct : set.names.Nodup) :
    (extendLast sets set).map base.overlay = extendLast (sets.map base.overlay) set := by
  rcases List.eq_nil_or_concat' sets with rfl | ⟨earlier, last, rfl⟩
  · exact absurd rfl started
  · have lastWellFormed := wellFormed last (List.mem_append_right _ List.mem_cons_self)
    rw [extendLast_concat, List.map_append, List.map_append, List.map_singleton,
      List.map_singleton, extendLast_concat,
      overlay_assoc distinctBase lastWellFormed.distinct distinct]

end DimensionSet

/-! ## Layers -/

namespace Layers

variable {layers changed : Layers} {first second set : DimensionSet} {rest : List DimensionSet}

theorem active_unchecked_put (layers : Layers) (set : DimensionSet) :
    (layers.unchecked (.putDimensions set)).active =
      DimensionSet.extendLast layers.active set := rfl

/-- The last set that is emitted has the names of the last active set and of the defaults, as far as
they apply. -/
theorem lastNames_emitted (layers : Layers) :
    (layers.emitted.getLast?.map DimensionSet.nameSet).getD ∅ =
      layers.appliedNames ∪ layers.lastNames := by
  by_cases idle : layers.active = []
  · have nameless : layers.lastNames = ∅ := by
      rw [lastNames, idle]
      rfl
    rw [nameless, Finset.union_empty, appliedNames]
    cases applies : layers.defaultsApply with
    | false =>
        rw [emitted_alone applies, idle]
        rfl
    | true =>
        rw [emitted_of_nil applies idle, if_pos rfl]
        split
        · rename_i bare
          rw [DimensionSet.eq_empty_of_isEmpty bare]
          rfl
        · rfl
  · obtain ⟨earlier, last, active⟩ := (List.eq_nil_or_concat' layers.active).resolve_left idle
    rw [← List.getLast?_map, map_nameSet_emitted idle, lastNames, active, List.map_append,
      List.map_singleton, List.getLast?_concat, List.getLast?_concat]
    rfl

namespace Sound

/-- **A set is put exactly when a document can hold its names together with those of the last active
set and of the defaults**, as far as they apply. -/
theorem put_eq_ok_iff_card (sound : layers.Sound) (wellFormed : set.WellFormed) :
    layers.put set = .ok changed ↔
      (layers.appliedNames ∪ (layers.lastNames ∪ set.nameSet)).card ≤ capacity ∧
        layers.unchecked (.putDimensions set) = changed := by
  cases outcome : layers.put set with
  | error reason =>
      obtain ⟨names, offends, _⟩ := sound.offends_of_put wellFormed outcome
      cases offends with
      | put _ tooMany => exact iff_of_false nofun fun fits => Nat.not_lt.mpr fits.1 tooMany
  | ok extended =>
      have accepted : layers.after (.putDimensions set) = .ok extended := outcome
      have done := after_eq_ok accepted
      have fits : (layers.appliedNames ∪ (layers.lastNames ∪ set.nameSet)).card ≤ capacity := by
        have extendedSound := sound.put wellFormed outcome
        rw [done] at extendedSound
        rw [← nameSet_unitedLast]
        exact extendedSound.fits (List.mem_append_right _ List.mem_cons_self)
      rw [Except.ok.injEq, done]
      exact (and_iff_right fits).symm

/-- **What is emitted after a set is put is what was emitted, with the set united to the last
one.** -/
theorem emitted_unchecked_put (sound : layers.Sound) (distinct : set.names.Nodup) :
    (layers.unchecked (.putDimensions set)).emitted =
      DimensionSet.extendLast layers.emitted set := by
  cases applies : layers.defaultsApply with
  | false =>
      have aside : (layers.unchecked (.putDimensions set)).defaultsApply = false := applies
      rw [emitted_alone aside, emitted_alone applies, active_unchecked_put]
  | true =>
      have still : (layers.unchecked (.putDimensions set)).defaultsApply = true := applies
      have started : (layers.unchecked (.putDimensions set)).active ≠ [] :=
        List.append_ne_nil_of_right_ne_nil _ (List.cons_ne_nil _ _)
      rw [emitted_of_ne_nil still started, active_unchecked_put]
      change (DimensionSet.extendLast layers.active set).map layers.defaults.overlay = _
      by_cases idle : layers.active = []
      · rw [emitted_of_nil applies idle, idle, DimensionSet.extendLast_nil, List.map_singleton]
        split
        · -- Without active sets and without defaults nothing was emitted.
          rename_i bare
          rw [DimensionSet.eq_empty_of_isEmpty bare, DimensionSet.empty_overlay distinct,
            DimensionSet.extendLast_nil]
        · exact (DimensionSet.extendLast_concat [] layers.defaults set).symm
      · rw [emitted_of_ne_nil applies idle]
        exact DimensionSet.map_overlay_extendLast idle sound.defaults.distinct sound.active distinct

/-! ## One set after another -/

theorem lastNames_unchecked_put (layers : Layers) (set : DimensionSet) :
    (layers.unchecked (.putDimensions set)).lastNames = layers.lastNames ∪ set.nameSet := by
  rw [← nameSet_unitedLast, lastNames, active_unchecked_put, DimensionSet.extendLast,
    List.getLast?_concat]
  rfl

theorem unchecked_put_put (sound : layers.Sound) (firstWellFormed : first.WellFormed)
    (secondWellFormed : second.WellFormed) :
    (layers.unchecked (.putDimensions first)).unchecked (.putDimensions second) =
      layers.unchecked (.putDimensions (first.overlay second)) := by
  have active := DimensionSet.extendLast_extendLast sound.active firstWellFormed.distinct
    secondWellFormed.distinct
  change { layers with
      active := DimensionSet.extendLast (DimensionSet.extendLast layers.active first) second } = _
  rw [active]
  rfl

/-- The names that need room after two sets are put are those that their union needs. -/
theorem names_put_put (layers : Layers) (first second : DimensionSet) :
    layers.appliedNames ∪ (layers.lastNames ∪ first.nameSet ∪ second.nameSet) =
      layers.appliedNames ∪ (layers.lastNames ∪ (first.overlay second).nameSet) := by
  rw [DimensionSet.nameSet_overlay, Finset.union_assoc layers.lastNames]

/-- Where a set was put, a second one is put when a document can hold the names of both. -/
theorem put_after_put_iff {between : Layers} (sound : layers.Sound)
    (firstWellFormed : first.WellFormed) (secondWellFormed : second.WellFormed)
    (put : layers.put first = .ok between) :
    between.put second = .ok changed ↔
      (layers.appliedNames ∪ (layers.lastNames ∪ (first.overlay second).nameSet)).card
          ≤ capacity ∧
        layers.unchecked (.putDimensions (first.overlay second)) = changed := by
  have betweenSound := sound.put firstWellFormed put
  obtain ⟨_, rfl⟩ := (sound.put_eq_ok_iff_card firstWellFormed).mp put
  rw [betweenSound.put_eq_ok_iff_card secondWellFormed, lastNames_unchecked_put,
    sound.unchecked_put_put firstWellFormed secondWellFormed, ← names_put_put]
  rfl

/-- **A set put after another is their union put at once**, or both ways are refused. -/
theorem put_put_iff (sound : layers.Sound) (firstWellFormed : first.WellFormed)
    (secondWellFormed : second.WellFormed) :
    (∃ between, layers.put first = .ok between ∧ between.put second = .ok changed) ↔
      ∃ united, first.merge second = .ok united ∧ layers.put united = .ok changed := by
  constructor
  · rintro ⟨between, earlier, later⟩
    obtain ⟨room, same⟩ :=
      (sound.put_after_put_iff firstWellFormed secondWellFormed earlier).mp later
    have within : first.nameSet ∪ second.nameSet ⊆ layers.appliedNames ∪
        (layers.lastNames ∪ (first.overlay second).nameSet) := by
      rw [← DimensionSet.nameSet_overlay]
      exact Finset.subset_union_right.trans Finset.subset_union_right
    obtain ⟨merged, wellFormed⟩ := firstWellFormed.merge_of_subset secondWellFormed within room
    exact ⟨_, merged, (sound.put_eq_ok_iff_card wellFormed).mpr ⟨room, same⟩⟩
  · rintro ⟨united, merged, put⟩
    obtain ⟨fits, rfl⟩ := DimensionSet.merge_eq_ok_iff.mp merged
    have wellFormed := firstWellFormed.overlay secondWellFormed.distinct fits
    obtain ⟨room, same⟩ := (sound.put_eq_ok_iff_card wellFormed).mp put
    -- There is room for the first set alone, whose names are among those of both.
    have firstRoom : (layers.appliedNames ∪ (layers.lastNames ∪ first.nameSet)).card
        ≤ capacity := by
      refine (Finset.card_le_card ?_).trans room
      rw [← names_put_put]
      exact Finset.union_subset_union_right Finset.subset_union_left
    have earlier := (sound.put_eq_ok_iff_card firstWellFormed).mpr ⟨firstRoom, rfl⟩
    exact ⟨_, earlier,
      (sound.put_after_put_iff firstWellFormed secondWellFormed earlier).mpr ⟨room, same⟩⟩

/-- **Sets put one after another are their union put at once**, or both ways are refused. -/
theorem foldlM_put_iff (sound : layers.Sound)
    (wellFormed : ∀ set ∈ first :: rest, set.WellFormed) :
    (first :: rest).foldlM Layers.put layers = .ok changed ↔
      ∃ united, rest.foldlM DimensionSet.merge first = .ok united ∧
        layers.put united = .ok changed := by
  induction rest generalizing first with
  | nil =>
      rw [List.foldlM_cons, bind_eq_ok_iff]
      constructor
      · rintro ⟨_, put, same⟩
        cases same
        exact ⟨first, rfl, put⟩
      · rintro ⟨_, same, put⟩
        cases same
        exact ⟨changed, put, rfl⟩
  | cons second later ih =>
      obtain ⟨firstWellFormed, others⟩ := List.forall_mem_cons.mp wellFormed
      obtain ⟨secondWellFormed, laterWellFormed⟩ := List.forall_mem_cons.mp others
      have wellFormedUnion {united : DimensionSet} (merged : first.merge second = .ok united) :
          ∀ set ∈ united :: later, set.WellFormed := by
        obtain ⟨room, rfl⟩ := DimensionSet.merge_eq_ok_iff.mp merged
        exact List.forall_mem_cons.mpr
          ⟨firstWellFormed.overlay secondWellFormed.distinct room, laterWellFormed⟩
      -- The first two sets are put as their union, in front of the later ones.
      have joined : (first :: second :: later).foldlM Layers.put layers = .ok changed ↔
          ∃ united, first.merge second = .ok united ∧
            (united :: later).foldlM Layers.put layers = .ok changed := by
        simp only [List.foldlM_cons, bind_eq_ok_iff]
        constructor
        · rintro ⟨between, earlier, after, put, puts⟩
          obtain ⟨united, merged, unitedPut⟩ :=
            (sound.put_put_iff firstWellFormed secondWellFormed).mp ⟨between, earlier, put⟩
          exact ⟨united, merged, after, unitedPut, puts⟩
        · rintro ⟨united, merged, after, unitedPut, puts⟩
          obtain ⟨between, earlier, put⟩ :=
            (sound.put_put_iff firstWellFormed secondWellFormed).mpr ⟨united, merged, unitedPut⟩
          exact ⟨between, earlier, after, put, puts⟩
      rw [joined, List.foldlM_cons]
      simp only [bind_eq_ok_iff]
      constructor
      · rintro ⟨united, merged, puts⟩
        obtain ⟨all, merges, put⟩ := (ih (wellFormedUnion merged)).mp puts
        exact ⟨all, ⟨united, merged, merges⟩, put⟩
      · rintro ⟨all, ⟨united, merged, merges⟩, put⟩
        exact ⟨united, merged, (ih (wellFormedUnion merged)).mpr ⟨all, merges, put⟩⟩

end Sound

end Layers

/-! ## Contexts -/

namespace Context

variable {context arrived : Context} {set first : DimensionSet} {rest sets : List DimensionSet}

/-- A set that the layers take is put, and nothing else changes. -/
theorem perform_put_of_ok {changed : Layers} (put : context.layers.put set = .ok changed) :
    context.perform (.putDimensions set) = ({ context with layers := changed }, .quiet) := by
  change context.settle (context.withLayers (context.layers.put set)) = _
  rw [put]
  rfl

theorem perform_put_of_error {reason : DimensionError}
    (refused : context.layers.put set = .error reason) :
    context.perform (.putDimensions set) = (context, ⟨some reason, []⟩) := by
  change context.settle (context.withLayers (context.layers.put set)) = _
  rw [refused]
  rfl

/-- Sets that are put one after another are put in the layers one after another. -/
theorem takesAll_puts_iff :
    context.TakesAll (sets.map Operation.putDimensions) ∧
        (context.run (sets.map Operation.putDimensions)).1 = arrived ↔
      ∃ changed, sets.foldlM Layers.put context.layers = .ok changed ∧
        { context with layers := changed } = arrived := by
  induction sets generalizing context with
  | nil =>
      constructor
      · rintro ⟨_, same⟩
        exact ⟨context.layers, rfl, same⟩
      · rintro ⟨_, same, arrives⟩
        cases same
        exact ⟨trivial, arrives⟩
  | cons set later ih =>
      rw [List.map_cons, List.foldlM_cons, TakesAll, run]
      cases outcome : context.layers.put set with
      | error reason =>
          rw [perform_put_of_error outcome]
          constructor
          · rintro ⟨⟨impossible, _⟩, _⟩
            cases impossible
          · rintro ⟨_, impossible, _⟩
            cases impossible
      | ok changed =>
          rw [perform_put_of_ok outcome]
          exact (and_congr_left fun _ => and_iff_right rfl).trans ih

/-- A set is accepted when a document can hold it with the last active set and the defaults. -/
theorem put_accepted_iff (sound : context.layers.Sound) (wellFormed : set.WellFormed) :
    (context.perform (.putDimensions set)).2.refusal = none ↔
      (context.layers.appliedNames ∪ (context.layers.lastNames ∪ set.nameSet)).card
        ≤ capacity := by
  rw [refusal_eq_none_iff]
  constructor
  · rintro ⟨changed, put⟩
    exact ((sound.put_eq_ok_iff_card wellFormed).mp put).1
  · intro room
    exact ⟨_, (sound.put_eq_ok_iff_card wellFormed).mpr ⟨room, rfl⟩⟩

/-- A single set is put when the layers take it. -/
theorem put_iff :
    (context.perform (.putDimensions set)).2.refusal = none ∧
        (context.perform (.putDimensions set)).1 = arrived ↔
      ∃ changed, context.layers.put set = .ok changed ∧
        { context with layers := changed } = arrived := by
  have alone : context.TakesAll ([set].map Operation.putDimensions) ∧
      (context.run ([set].map Operation.putDimensions)).1 = arrived ↔ _ := takesAll_puts_iff
  simpa [TakesAll, run] using alone

/-! ## Reachable contexts -/

/-- **A set that is put is united with the last set a document lists**, wherever it is stored: it is
refused exactly when the two cannot be merged, the sets listed before stay as they are, and if there
was none, the new one is listed alone. -/
theorem Reachable.put_extends_last (reachable : context.Reachable)
    (constructible : set.Constructible) :
    let outcome := context.perform (.putDimensions set)
    (context.dimensions = [] →
      outcome.2.refusal = none ∧ outcome.1.dimensions = [set]) ∧
    ∀ earlier last, context.dimensions = earlier ++ [last] →
      (outcome.2.refusal = none ↔ ∃ united, last.merge set = .ok united) ∧
      (outcome.2.refusal = none → outcome.1.dimensions = earlier ++ [last.overlay set]) := by
  intro outcome
  have sound := reachable.sound
  have wellFormed := constructible.wellFormed
  have accepted_iff := put_accepted_iff sound wellFormed
  have names := context.layers.lastNames_emitted
  have extended (accepted : outcome.2.refusal = none) :
      outcome.1.dimensions = DimensionSet.extendLast context.dimensions set := by
    obtain ⟨changed, put, same⟩ := put_iff.mp ⟨accepted, rfl⟩
    obtain ⟨_, rfl⟩ := (sound.put_eq_ok_iff_card wellFormed).mp put
    change (context.perform (.putDimensions set)).1.layers.emitted = _
    rw [← same]
    exact sound.emitted_unchecked_put wellFormed.distinct
  constructor
  · intro nothing
    have nameless : context.layers.appliedNames ∪ context.layers.lastNames = ∅ := by
      change context.layers.emitted = [] at nothing
      rw [← names, nothing]
      rfl
    have accepted : outcome.2.refusal = none := by
      rw [accepted_iff, ← Finset.union_assoc, nameless, Finset.empty_union]
      exact wellFormed.card_le
    rw [extended accepted, nothing]
    exact ⟨accepted, rfl⟩
  · intro earlier last listed
    change context.layers.emitted = earlier ++ [last] at listed
    have lastWellFormed := sound.wellFormed_of_mem_emitted
      (listed ▸ List.mem_append_right earlier List.mem_cons_self)
    rw [listed, List.getLast?_concat, Option.map_some, Option.getD_some] at names
    constructor
    · rw [accepted_iff, ← Finset.union_assoc, ← names]
      simp only [DimensionSet.merge_eq_ok_iff_card lastWellFormed wellFormed, exists_and_left,
        exists_eq', and_true]
    · intro accepted
      rw [extended accepted]
      change DimensionSet.extendLast context.layers.emitted set = _
      rw [listed, DimensionSet.extendLast_concat]

/-- A set that collides with the defaults and with the last of two active sets over them. -/
theorem put_extends_last_collision :
    let defaults : DimensionSet := ⟨[("Stage", "beta"), ("Zone", "a")]⟩
    let route : DimensionSet := ⟨[("Route", "buy")]⟩
    let call : DimensionSet := ⟨[("Call", "pay"), ("Stage", "prod")]⟩
    let set : DimensionSet := ⟨[("Zone", "b"), ("Rack", "7"), ("Stage", "test")]⟩
    let context := ((Context.ofDefaults defaults).perform
      (.setDimensionsOverDefaults [route, call])).1
    let listed : DimensionSet := ⟨[("Stage", "beta"), ("Zone", "a"), ("Route", "buy")]⟩
    let last : DimensionSet := ⟨[("Stage", "prod"), ("Zone", "a"), ("Call", "pay")]⟩
    context.Reachable ∧ context.dimensions = [listed, last] ∧
      (context.perform (.putDimensions set)).1.dimensions =
        [listed, ⟨[("Stage", "test"), ("Zone", "b"), ("Call", "pay"), ("Rack", "7")]⟩] := by
  intro defaults route call set context listed last
  have defaultsWellFormed : defaults.WellFormed := ⟨by decide, by decide⟩
  have routeWellFormed : route.WellFormed := ⟨by decide, by decide⟩
  have callWellFormed : call.WellFormed := ⟨by decide, by decide⟩
  have setWellFormed : set.WellFormed := ⟨by decide, by decide⟩
  have admissible : (Operation.setDimensionsOverDefaults [route, call]).Admissible :=
    List.forall_mem_cons.mpr ⟨routeWellFormed.constructible,
      List.forall_mem_singleton.mpr callWellFormed.constructible⟩
  have reachable : context.Reachable :=
    .perform (.ofDefaults defaultsWellFormed.constructible) admissible
  have before : context.dimensions = [listed] ++ [last] := by decide
  have accepted : (context.perform (.putDimensions set)).2.refusal = none := by decide
  have extends_last := reachable.put_extends_last setWellFormed.constructible
  exact ⟨reachable, before, (extends_last.2 [listed] last before).2 accepted⟩

/-- **Sets can be put one after another exactly when they can be merged and their union be put**,
and both ways lead to the same context. -/
theorem Reachable.puts_batch (reachable : context.Reachable)
    (constructible : ∀ set ∈ first :: rest, set.Constructible) :
    let puts := (first :: rest).map Operation.putDimensions
    (context.TakesAll puts ↔
      ∃ united, rest.foldlM DimensionSet.merge first = .ok united ∧
        (context.perform (.putDimensions united)).2.refusal = none) ∧
    ∀ united, rest.foldlM DimensionSet.merge first = .ok united →
      (context.perform (.putDimensions united)).2.refusal = none →
        (context.run puts).1 = (context.perform (.putDimensions united)).1 := by
  intro puts
  have wellFormed : ∀ set ∈ first :: rest, set.WellFormed := fun set member =>
    (constructible set member).wellFormed
  have batch (arrived : Context) :
      context.TakesAll puts ∧ (context.run puts).1 = arrived ↔
        ∃ united, rest.foldlM DimensionSet.merge first = .ok united ∧
          (context.perform (.putDimensions united)).2.refusal = none ∧
            (context.perform (.putDimensions united)).1 = arrived := by
    simp only [puts, takesAll_puts_iff, put_iff, reachable.sound.foldlM_put_iff wellFormed]
    constructor
    · rintro ⟨changed, ⟨united, merged, put⟩, same⟩
      exact ⟨united, merged, changed, put, same⟩
    · rintro ⟨united, merged, changed, put, same⟩
      exact ⟨changed, ⟨united, merged, put⟩, same⟩
  refine ⟨⟨fun taken => ?_, ?_⟩, fun united merged accepted => ?_⟩
  · obtain ⟨united, merged, accepted, _⟩ := (batch _).mp ⟨taken, rfl⟩
    exact ⟨united, merged, accepted⟩
  · rintro ⟨united, merged, accepted⟩
    exact ((batch _).mpr ⟨united, merged, accepted, rfl⟩).1
  · exact ((batch _).mpr ⟨united, merged, accepted, rfl⟩).2

/-- Three sets that collide with one another and with the last active set, over defaults. -/
theorem puts_batch_collisions :
    let defaults : DimensionSet := ⟨[("Stage", "beta")]⟩
    let call : DimensionSet := ⟨[("Call", "pay"), ("Stage", "prod")]⟩
    let zone : DimensionSet := ⟨[("Zone", "a"), ("Call", "refund")]⟩
    let route : DimensionSet := ⟨[("Route", "buy"), ("Zone", "b")]⟩
    let rack : DimensionSet := ⟨[("Stage", "test"), ("Route", "sell")]⟩
    let all : DimensionSet :=
      ⟨[("Zone", "b"), ("Call", "refund"), ("Route", "sell"), ("Stage", "test")]⟩
    let context := ((Context.ofDefaults defaults).perform (.putDimensions call)).1
    let puts := [zone, route, rack].map Operation.putDimensions
    context.Reachable ∧ [route, rack].foldlM DimensionSet.merge zone = .ok all ∧
      context.TakesAll puts ∧
        (context.run puts).1 = (context.perform (.putDimensions all)).1 := by
  intro defaults call zone route rack all context puts
  have wellFormed : ∀ set ∈ [defaults, call, zone, route, rack], set.WellFormed := by
    intro set member
    simp only [List.mem_cons, List.not_mem_nil, or_false] at member
    rcases member with rfl | rfl | rfl | rfl | rfl <;> exact ⟨by decide, by decide⟩
  have constructible : ∀ set ∈ [defaults, call, zone, route, rack], set.Constructible :=
    fun set member => (wellFormed set member).constructible
  obtain ⟨defaultsConstructible, others⟩ := List.forall_mem_cons.mp constructible
  obtain ⟨callConstructible, given⟩ := List.forall_mem_cons.mp others
  have reachable : context.Reachable :=
    .perform (.ofDefaults defaultsConstructible) (List.forall_mem_singleton.mpr callConstructible)
  have merged : [route, rack].foldlM DimensionSet.merge zone = .ok all := by decide
  have accepted : (context.perform (.putDimensions all)).2.refusal = none := by decide
  have batch := reachable.puts_batch given
  exact ⟨reachable, merged, batch.1.mpr ⟨all, merged, accepted⟩, batch.2 all merged accepted⟩

end Context

end MetricEmitter
