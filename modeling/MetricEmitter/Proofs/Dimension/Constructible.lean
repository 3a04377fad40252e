import MetricEmitter.Proofs.Dimension.Union

/-!
# The dimension sets a caller can come by

A caller builds a set from pairs or from alternating names and values, adds to
it, and merges sets (`DimensionSet.Constructible`). Each of these operations
refuses what a document could not hold, so the sets they return name nothing
twice and have at most `DimensionSet.capacity` names. Conversely every such set
can be built from its own entries (`ofPairs_entries`), so there are no others
(`constructible_iff_wellFormed`).

Building stops at the first pair that finds a full set and brings a new name. At
that moment the set has `DimensionSet.capacity` names, so the refusal counts one
more, however many names the rest of the list has (`addAll_eq`).
-/

set_option autoImplicit false

namespace MetricEmitter.DimensionSet

/-- The sets a caller can come by. -/
inductive Constructible : DimensionSet → Prop where
  | empty : Constructible .empty
  | ofPairs {pairs : List (String × String)} {set : DimensionSet}
      (built : DimensionSet.ofPairs pairs = .ok set) : Constructible set
  | ofAlternating {items : List String} {set : DimensionSet}
      (built : DimensionSet.ofAlternating items = .ok set) : Constructible set
  | add {set extended : DimensionSet} {name value : String} (constructible : Constructible set)
      (added : set.add name value = .ok extended) : Constructible extended
  | merge {base top united : DimensionSet} (base_constructible : Constructible base)
      (top_constructible : Constructible top) (merged : base.merge top = .ok united) :
      Constructible united

/-- A set that names nothing twice and that a document can hold. -/
structure WellFormed (set : DimensionSet) : Prop where
  distinct : set.names.Nodup
  fits : set.size ≤ capacity

theorem WellFormed.card_le {set : DimensionSet} (wellFormed : set.WellFormed) :
    set.nameSet.card ≤ capacity :=
  (card_nameSet wellFormed.distinct).trans_le wellFormed.fits

/-! ## What the operations accept -/

/-- A dimension is added when its name is declared or there is room for it. -/
theorem add_eq_ok_iff {set extended : DimensionSet} {name value : String} :
    set.add name value = .ok extended ↔
      (name ∈ set.names ∨ set.size < capacity) ∧ set.assign name value = extended := by
  unfold add
  split
  · rename_i accepted
    rw [Bool.or_eq_true, contains_iff, decide_eq_true_eq] at accepted
    simp [accepted]
  · rename_i refused
    rw [Bool.or_eq_true, contains_iff, decide_eq_true_eq] at refused
    simp [refused]

/-- Sets are merged when a document can hold their union. -/
theorem merge_eq_ok_iff {base top united : DimensionSet} :
    base.merge top = .ok united ↔
      base.unionSize top ≤ capacity ∧ base.overlay top = united := by
  unfold merge
  split <;> simp [*]

namespace WellFormed

theorem empty : WellFormed .empty :=
  ⟨List.nodup_nil, Nat.zero_le _⟩

theorem assign {set : DimensionSet} {name : String} (wellFormed : set.WellFormed)
    (accepted : name ∈ set.names ∨ set.size < capacity) (value : String) :
    (set.assign name value).WellFormed := by
  refine ⟨nodup_names_assign wellFormed.distinct name value, ?_⟩
  have fits := wellFormed.fits
  rw [size_assign]
  split
  · exact fits
  · rename_i fresh
    exact accepted.resolve_left fresh

theorem overlay {base top : DimensionSet} (wellFormed : base.WellFormed)
    (distinct : top.names.Nodup) (room : base.unionSize top ≤ capacity) :
    (base.overlay top).WellFormed := by
  refine ⟨nodup_names_overlay wellFormed.distinct top, ?_⟩
  rw [size_overlay base distinct]
  exact room

end WellFormed

/-! ## Building -/

/-- **Pairs are added when a document can hold all names together**, and otherwise the first name
for which there is no room is counted. -/
theorem addAll_eq {set : DimensionSet} (wellFormed : set.WellFormed)
    (pairs : List (String × String)) :
    set.addAll pairs =
      if (set.nameSet ∪ nameSet ⟨pairs⟩).card ≤ capacity then .ok (set.overlay ⟨pairs⟩)
      else .error (.tooMany (capacity + 1)) := by
  induction pairs generalizing set with
  | nil =>
      have room : (set.nameSet ∪ nameSet ⟨[]⟩).card ≤ capacity := by
        change (set.nameSet ∪ ∅).card ≤ capacity
        rw [Finset.union_empty]
        exact wellFormed.card_le
      rw [if_pos room]
      rfl
  | cons pair rest ih =>
      obtain ⟨name, value⟩ := pair
      rw [← nameSet_assign_union, addAll]
      by_cases accepted : name ∈ set.names ∨ set.size < capacity
      · rw [add_eq_ok_iff.mpr ⟨accepted, rfl⟩]
        exact ih (wellFormed.assign accepted value)
      · obtain ⟨fresh, full⟩ := not_or.mp accepted
        have size : set.size = capacity := le_antisymm wellFormed.fits (Nat.not_lt.mp full)
        have refused : set.add name value = .error (.tooMany (capacity + 1)) := by
          rw [add, if_neg, size]
          rwa [Bool.or_eq_true, contains_iff, decide_eq_true_eq]
        have grown : (set.assign name value).nameSet.card = capacity + 1 := by
          rw [card_nameSet (nodup_names_assign wellFormed.distinct name value), size_assign,
            if_neg fresh, size]
        have tooMany : capacity + 1 ≤ ((set.assign name value).nameSet ∪ nameSet ⟨rest⟩).card :=
          grown.ge.trans (Finset.card_le_card Finset.subset_union_left)
        rw [refused, if_neg (Nat.not_le.mpr tooMany)]

/-- A set is built from a list exactly when a document can hold its names. -/
theorem ofPairs_eq (pairs : List (String × String)) :
    ofPairs pairs =
      if (pairs.map Prod.fst).toFinset.card ≤ capacity then .ok (empty.overlay ⟨pairs⟩)
      else .error (.tooMany (capacity + 1)) := by
  rw [ofPairs, addAll_eq WellFormed.empty]
  change (if (∅ ∪ nameSet ⟨pairs⟩).card ≤ capacity then _ else _) = _
  rw [Finset.empty_union]
  rfl

theorem WellFormed.addAll {set built : DimensionSet} {pairs : List (String × String)}
    (wellFormed : set.WellFormed) (added : set.addAll pairs = .ok built) : built.WellFormed := by
  rw [addAll_eq wellFormed] at added
  split at added
  · rename_i room
    cases added
    have distinct := nodup_names_overlay wellFormed.distinct ⟨pairs⟩
    refine ⟨distinct, ?_⟩
    rw [← card_nameSet distinct, nameSet_overlay]
    exact room
  · cases added

/-- **A set that a document can hold is built from its entries.** -/
theorem ofPairs_entries {set : DimensionSet} (wellFormed : set.WellFormed) :
    DimensionSet.ofPairs set.entries = .ok set := by
  have room : (set.entries.map Prod.fst).toFinset.card ≤ capacity := wellFormed.card_le
  rw [ofPairs_eq, if_pos room]
  exact congrArg Except.ok (empty_overlay wellFormed.distinct)

theorem WellFormed.constructible {set : DimensionSet} (wellFormed : set.WellFormed) :
    set.Constructible :=
  .ofPairs (ofPairs_entries wellFormed)

/-! ## No other sets -/

theorem Constructible.wellFormed {set : DimensionSet} (constructible : set.Constructible) :
    set.WellFormed := by
  induction constructible with
  | empty => exact .empty
  | ofPairs built => exact WellFormed.empty.addAll built
  | @ofAlternating items set built =>
      unfold DimensionSet.ofAlternating at built
      split at built
      · exact WellFormed.empty.addAll built
      · cases built
  | add _ added ih =>
      obtain ⟨accepted, same⟩ := add_eq_ok_iff.mp added
      exact same ▸ ih.assign accepted _
  | merge _ _ merged baseWellFormed topWellFormed =>
      obtain ⟨room, same⟩ := merge_eq_ok_iff.mp merged
      exact same ▸ baseWellFormed.overlay topWellFormed.distinct room

/-- **The sets a caller can come by are those that name nothing twice and that a document can
hold.** -/
theorem constructible_iff_wellFormed {set : DimensionSet} :
    set.Constructible ↔ set.WellFormed :=
  ⟨Constructible.wellFormed, WellFormed.constructible⟩

end MetricEmitter.DimensionSet
