import MetricEmitter.Proofs.Dimension.Constructible

/-!
# Merging is a partial monoid

Merging is the overlay, provided that a document can hold the result. The
overlay is associative, and three sets can be merged from the left exactly when
they can be merged from the right: both ask for room for the names of all three,
because the names of two of them are among these (`DimensionSet.merge_laws`).
What a refusal counts does depend on the order, so only the sets that are
returned can be compared.

The sets can also be united by adding the pairs of both, one after another. That
adding stops at the first name for which there is no room, while merging counts
all names beforehand, makes no difference to what is accepted and to what comes
of it (`DimensionSet.unions_agree`).
-/

set_option autoImplicit false

namespace MetricEmitter

/-- Two steps of which the second needs the result of the first succeed when both do. -/
theorem bind_eq_ok_iff {ε α β : Type} {earlier : Except ε α} {later : α → Except ε β}
    {result : β} :
    earlier >>= later = .ok result ↔
      ∃ between, earlier = .ok between ∧ later between = .ok result := by
  cases earlier with
  | error reason => exact ⟨nofun, fun ⟨_, impossible, _⟩ => nomatch impossible⟩
  | ok between =>
      constructor
      · intro succeeded
        exact ⟨between, rfl, succeeded⟩
      · rintro ⟨_, same, succeeded⟩
        cases same
        exact succeeded

namespace DimensionSet

variable {first second third : DimensionSet}

/-! ## Merging -/

/-- Sets are merged when a document can hold the names of both together. -/
theorem merge_eq_ok_iff_card {base top united : DimensionSet} (baseWellFormed : base.WellFormed)
    (topWellFormed : top.WellFormed) :
    base.merge top = .ok united ↔
      (base.nameSet ∪ top.nameSet).card ≤ capacity ∧ base.overlay top = united := by
  rw [merge_eq_ok_iff, unionSize_eq_card baseWellFormed.distinct topWellFormed.distinct]

/-- Sets whose names are among some that a document can hold are merged. -/
theorem WellFormed.merge_of_subset {base top : DimensionSet} (baseWellFormed : base.WellFormed)
    (topWellFormed : top.WellFormed) {names : Finset String}
    (within : base.nameSet ∪ top.nameSet ⊆ names) (room : names.card ≤ capacity) :
    base.merge top = .ok (base.overlay top) ∧ (base.overlay top).WellFormed := by
  have merged : base.merge top = .ok (base.overlay top) :=
    (merge_eq_ok_iff_card baseWellFormed topWellFormed).mpr
      ⟨(Finset.card_le_card within).trans room, rfl⟩
  exact ⟨merged, baseWellFormed.overlay topWellFormed.distinct (merge_eq_ok_iff.mp merged).1⟩

/-- The third set merged into the union of the first two. -/
def mergeFromLeft (first second third : DimensionSet) : Except DimensionError DimensionSet :=
  first.merge second >>= fun united => united.merge third

/-- The union of the last two sets merged into the first. -/
def mergeFromRight (first second third : DimensionSet) : Except DimensionError DimensionSet :=
  second.merge third >>= fun united => first.merge united

theorem mergeFromLeft_eq_ok_iff {united : DimensionSet} (firstWellFormed : first.WellFormed)
    (secondWellFormed : second.WellFormed) (thirdWellFormed : third.WellFormed) :
    mergeFromLeft first second third = .ok united ↔
      (first.nameSet ∪ second.nameSet ∪ third.nameSet).card ≤ capacity ∧
        (first.overlay second).overlay third = united := by
  rw [mergeFromLeft, bind_eq_ok_iff, ← nameSet_overlay]
  constructor
  · rintro ⟨between, earlier, later⟩
    obtain ⟨room, rfl⟩ := merge_eq_ok_iff.mp earlier
    have wellFormed := firstWellFormed.overlay secondWellFormed.distinct room
    exact (merge_eq_ok_iff_card wellFormed thirdWellFormed).mp later
  · rintro ⟨room, same⟩
    have within : first.nameSet ∪ second.nameSet ⊆
        (first.overlay second).nameSet ∪ third.nameSet :=
      (nameSet_overlay first second).ge.trans Finset.subset_union_left
    obtain ⟨earlier, wellFormed⟩ :=
      firstWellFormed.merge_of_subset secondWellFormed within room
    exact ⟨_, earlier, (merge_eq_ok_iff_card wellFormed thirdWellFormed).mpr ⟨room, same⟩⟩

theorem mergeFromRight_eq_ok_iff {united : DimensionSet} (firstWellFormed : first.WellFormed)
    (secondWellFormed : second.WellFormed) (thirdWellFormed : third.WellFormed) :
    mergeFromRight first second third = .ok united ↔
      (first.nameSet ∪ second.nameSet ∪ third.nameSet).card ≤ capacity ∧
        first.overlay (second.overlay third) = united := by
  rw [mergeFromRight, bind_eq_ok_iff, Finset.union_assoc, ← nameSet_overlay]
  constructor
  · rintro ⟨between, earlier, later⟩
    obtain ⟨room, rfl⟩ := merge_eq_ok_iff.mp earlier
    have wellFormed := secondWellFormed.overlay thirdWellFormed.distinct room
    exact (merge_eq_ok_iff_card firstWellFormed wellFormed).mp later
  · rintro ⟨room, same⟩
    have within : second.nameSet ∪ third.nameSet ⊆
        first.nameSet ∪ (second.overlay third).nameSet :=
      (nameSet_overlay second third).ge.trans Finset.subset_union_right
    obtain ⟨earlier, wellFormed⟩ :=
      secondWellFormed.merge_of_subset thirdWellFormed within room
    exact ⟨_, earlier, (merge_eq_ok_iff_card firstWellFormed wellFormed).mpr ⟨room, same⟩⟩

/-! ## The laws -/

/-- Merging as a partial monoid, on three sets: the empty set changes nothing and a set adds nothing
to itself, sets are merged exactly when a document can hold their names, and three of them give the
same set from the left as from the right, with each name at its first place and with the value of
the last set that has it. -/
structure MergeLaws (first second third : DimensionSet) : Prop where
  empty_merge : empty.merge first = .ok first
  merge_empty : first.merge empty = .ok first
  merge_self : first.merge first = .ok first
  merges_iff : (∃ united, first.merge second = .ok united) ↔
    (first.nameSet ∪ second.nameSet).card ≤ capacity
  fromLeft_iff : (∃ united, mergeFromLeft first second third = .ok united) ↔
    (first.nameSet ∪ second.nameSet ∪ third.nameSet).card ≤ capacity
  fromRight_iff : (∃ united, mergeFromRight first second third = .ok united) ↔
    (first.nameSet ∪ second.nameSet ∪ third.nameSet).card ≤ capacity
  assoc : ∀ united, mergeFromLeft first second third = .ok united ↔
    mergeFromRight first second third = .ok united
  names : ∀ united, mergeFromLeft first second third = .ok united →
    united.names = first.names ++ second.names.filter (fun name => name ∉ first.names) ++
      third.names.filter fun name => name ∉ first.names ∧ name ∉ second.names
  values : ∀ united, mergeFromLeft first second third = .ok united → ∀ name,
    united.value? name = (third.value? name).or ((second.value? name).or (first.value? name))

/-- **Merging is a partial monoid that keeps the order of the names.** -/
theorem merge_laws (firstConstructible : first.Constructible)
    (secondConstructible : second.Constructible) (thirdConstructible : third.Constructible) :
    MergeLaws first second third := by
  have firstWellFormed := firstConstructible.wellFormed
  have secondWellFormed := secondConstructible.wellFormed
  have thirdWellFormed := thirdConstructible.wellFormed
  have alone := firstWellFormed.card_le
  have fromLeft (united : DimensionSet) : mergeFromLeft first second third = .ok united ↔ _ :=
    mergeFromLeft_eq_ok_iff firstWellFormed secondWellFormed thirdWellFormed
  have fromRight (united : DimensionSet) : mergeFromRight first second third = .ok united ↔ _ :=
    mergeFromRight_eq_ok_iff firstWellFormed secondWellFormed thirdWellFormed
  have assoc := overlay_assoc firstWellFormed.distinct secondWellFormed.distinct
    thirdWellFormed.distinct
  constructor
  case empty_merge =>
    have within : empty.nameSet ∪ first.nameSet ⊆ first.nameSet := (Finset.empty_union _).le
    have merged := (WellFormed.empty.merge_of_subset firstWellFormed within alone).1
    rwa [empty_overlay firstWellFormed.distinct] at merged
  case merge_empty =>
    have within : first.nameSet ∪ empty.nameSet ⊆ first.nameSet := (Finset.union_empty _).le
    exact (firstWellFormed.merge_of_subset .empty within alone).1
  case merge_self =>
    have within : first.nameSet ∪ first.nameSet ⊆ first.nameSet := (Finset.union_self _).le
    have merged := (firstWellFormed.merge_of_subset firstWellFormed within alone).1
    rwa [overlay_self firstWellFormed.distinct] at merged
  case merges_iff =>
    simp only [merge_eq_ok_iff_card firstWellFormed secondWellFormed, exists_and_left,
      exists_eq', and_true]
  case fromLeft_iff => simp only [fromLeft, exists_and_left, exists_eq', and_true]
  case fromRight_iff => simp only [fromRight, exists_and_left, exists_eq', and_true]
  case assoc =>
    intro united
    rw [fromLeft, fromRight, assoc]
  case names =>
    intro united merged
    rw [← ((fromLeft united).mp merged).2]
    exact names_overlay_overlay first secondWellFormed.distinct thirdWellFormed.distinct
  case values =>
    intro united merged name
    rw [← ((fromLeft united).mp merged).2, value?_overlay _ thirdWellFormed.distinct,
      value?_overlay _ secondWellFormed.distinct]

/-- Three sets that collide pairwise, and one name in which all three do. -/
theorem merge_laws_collisions :
    let defaults : DimensionSet := ⟨[("Stage", "beta"), ("Zone", "a"), ("Rack", "7")]⟩
    let route : DimensionSet := ⟨[("Route", "buy"), ("Zone", "b"), ("Stage", "prod")]⟩
    let call : DimensionSet := ⟨[("Call", "pay"), ("Stage", "test"), ("Route", "sell")]⟩
    let all : DimensionSet := ⟨[("Stage", "test"), ("Zone", "b"), ("Rack", "7"),
      ("Route", "sell"), ("Call", "pay")]⟩
    MergeLaws defaults route call ∧ mergeFromLeft defaults route call = .ok all ∧
      mergeFromRight defaults route call = .ok all := by
  intro defaults route call all
  have defaultsWellFormed : defaults.WellFormed := ⟨by decide, by decide⟩
  have routeWellFormed : route.WellFormed := ⟨by decide, by decide⟩
  have callWellFormed : call.WellFormed := ⟨by decide, by decide⟩
  have laws := merge_laws defaultsWellFormed.constructible routeWellFormed.constructible
    callWellFormed.constructible
  have merged : mergeFromLeft defaults route call = .ok all := by decide
  exact ⟨laws, merged, (laws.assoc all).mp merged⟩

/-! ## Other ways to unite two sets -/

/-- An overlay takes in one part of the top after the other. -/
theorem overlay_append (base : DimensionSet) (earlier later : List (String × String)) :
    base.overlay ⟨earlier ++ later⟩ = (base.overlay ⟨earlier⟩).overlay ⟨later⟩ :=
  List.foldl_append

/-- The pairs of two sets, one after another, make a set when a document can hold the names of both
together. -/
theorem ofPairs_append_eq_ok_iff {base top united : DimensionSet} (distinct : base.names.Nodup) :
    ofPairs (base.entries ++ top.entries) = .ok united ↔
      (base.nameSet ∪ top.nameSet).card ≤ capacity ∧ base.overlay top = united := by
  have names : ((base.entries ++ top.entries).map Prod.fst).toFinset =
      base.nameSet ∪ top.nameSet := by
    rw [List.map_append, List.toFinset_append]
    rfl
  have overlaid : empty.overlay ⟨base.entries ++ top.entries⟩ = base.overlay top := by
    rw [overlay_append, empty_overlay distinct]
  rw [ofPairs_eq, names, overlaid]
  split <;> simp [*]

/-- The ways to unite two sets agree. The overlay has as many names as are counted, none of them
twice, and the count does not depend on which set is the base. Merging the sets succeeds exactly
when the pairs of both make a set, and both then give the overlay. -/
structure UnionsAgree (base top : DimensionSet) : Prop where
  count : (base.overlay top).names.length = base.unionSize top
  distinct : (base.overlay top).names.Nodup
  count_comm : base.unionSize top = top.unionSize base
  succeed : (∃ united, base.merge top = .ok united) ↔
    ∃ united, ofPairs (base.entries ++ top.entries) = .ok united
  merged : ∀ united, base.merge top = .ok united → united = base.overlay top
  built : ∀ united, ofPairs (base.entries ++ top.entries) = .ok united → united = base.overlay top

/-- **Counting the names of a union, laying one set over the other, and adding pair after pair agree
with one another.** -/
theorem unions_agree {base top : DimensionSet} (baseConstructible : base.Constructible)
    (topConstructible : top.Constructible) : UnionsAgree base top := by
  have baseWellFormed := baseConstructible.wellFormed
  have topWellFormed := topConstructible.wellFormed
  have merges (united : DimensionSet) : base.merge top = .ok united ↔ _ :=
    merge_eq_ok_iff_card baseWellFormed topWellFormed
  have builds (united : DimensionSet) :
      ofPairs (base.entries ++ top.entries) = .ok united ↔ _ :=
    ofPairs_append_eq_ok_iff baseWellFormed.distinct
  constructor
  case count => rw [← size_eq_length_names, size_overlay base topWellFormed.distinct]
  case distinct => exact nodup_names_overlay baseWellFormed.distinct top
  case count_comm =>
    rw [unionSize_eq_card baseWellFormed.distinct topWellFormed.distinct,
      unionSize_eq_card topWellFormed.distinct baseWellFormed.distinct, Finset.union_comm]
  case succeed => simp only [merges, builds]
  case merged =>
    intro united merged
    exact ((merges united).mp merged).2.symm
  case built =>
    intro united built
    exact ((builds united).mp built).2.symm

/-- Two sets with one name in common that fill a document, and two sets of which the second has a
name more: adding its pairs stops at that name. -/
theorem unions_agree_full :
    let letters (first count : Nat) : DimensionSet :=
      ⟨(List.range count).map fun index =>
        (String.singleton (Char.ofNat (first + index)), toString count)⟩
    let base := letters 65 20
    let fitting := letters 84 11
    let large := letters 84 12
    base.Constructible ∧ fitting.Constructible ∧ large.Constructible ∧
      UnionsAgree base fitting ∧ base.merge fitting = .ok (base.overlay fitting) ∧
      (base.overlay fitting).value? "T" = some "11" ∧
      ofPairs (base.entries ++ large.entries) = .error (.tooMany 31) ∧
      ¬∃ united, base.merge large = .ok united := by
  intro letters base fitting large
  have baseWellFormed : base.WellFormed := ⟨by decide +kernel, by decide +kernel⟩
  have fittingWellFormed : fitting.WellFormed := ⟨by decide +kernel, by decide +kernel⟩
  have largeWellFormed : large.WellFormed := ⟨by decide +kernel, by decide +kernel⟩
  have agree := unions_agree baseWellFormed.constructible fittingWellFormed.constructible
  have agreeLarge := unions_agree baseWellFormed.constructible largeWellFormed.constructible
  have refused : ofPairs (base.entries ++ large.entries) = .error (.tooMany 31) := by
    decide +kernel
  refine ⟨baseWellFormed.constructible, fittingWellFormed.constructible,
    largeWellFormed.constructible, agree, by decide +kernel, by decide +kernel, refused, ?_⟩
  rw [agreeLarge.succeed, refused]
  exact fun ⟨_, built⟩ => nomatch built

end DimensionSet

end MetricEmitter
