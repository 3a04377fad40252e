import MetricEmitter.Proofs.Dimension.Constructible

/-!
# Sets built from lists

A list of pairs may give a name several values. The set that is built from it
has each name once, where it first occurs in the list, with the value it was
given last (`DimensionSet.Collects`). One assignment after another keeps this
up, whatever the number of names (`Collects.overlay`).

A list of alternating names and values is read as pairs before anything is
built, and only its length can stand in the way (`paired_alternating`,
`alternating_paired`).
-/

set_option autoImplicit false

namespace MetricEmitter.DimensionSet

variable {base set : DimensionSet} {pairs : List (String × String)}

/-! ## What a set collects -/

/-- A set has the names of a list of pairs, each where it first occurs, with their last values. -/
structure Collects (set : DimensionSet) (pairs : List (String × String)) : Prop where
  names : set.names = (pairs.map Prod.fst).eraseDups
  values : ∀ name, set.value? name = pairs.reverse.lookup name

namespace Collects

theorem empty : Collects .empty [] :=
  ⟨rfl, fun _ => rfl⟩

theorem mem_names_iff (collects : set.Collects pairs) {name : String} :
    name ∈ set.names ↔ name ∈ pairs.map Prod.fst := by
  rw [collects.names, List.mem_eraseDups]

/-- Assignment collects one pair more. -/
theorem assign (collects : set.Collects pairs) (name value : String) :
    (set.assign name value).Collects (pairs ++ [(name, value)]) := by
  constructor
  · rw [names_assign, List.map_append, List.eraseDups_append, ← collects.names]
    -- What the last pair adds to the names is nothing or its own name.
    have listed : (pairs.map Prod.fst).contains name = true ↔ name ∈ set.names := by
      rw [List.contains_iff_mem, collects.mem_names_iff]
    by_cases declared : name ∈ set.names
    · rw [if_pos declared, List.map_singleton, List.cons_removeAll, listed.mpr declared]
      exact (List.append_nil set.names).symm
    · rw [if_neg declared, List.map_singleton, List.cons_removeAll,
        Bool.eq_false_iff.mpr (mt listed.mp declared)]
      rfl
  · intro query
    rw [value?_assign, List.reverse_append, List.reverse_singleton, List.singleton_append,
      Table.lookup_cons, collects.values]

/-- **An overlay collects the entries of the top after what the base collects**, also if the top
names something twice. -/
theorem overlay (collects : base.Collects pairs) (top : DimensionSet) :
    (base.overlay top).Collects (pairs ++ top.entries) := by
  obtain ⟨entries⟩ := top
  induction entries generalizing base pairs with
  | nil => simpa using collects
  | cons entry rest ih =>
      obtain ⟨name, value⟩ := entry
      have regrouped : pairs ++ (name, value) :: rest = (pairs ++ [(name, value)]) ++ rest := by
        rw [List.append_assoc, List.singleton_append]
      rw [overlay_cons, regrouped]
      exact ih (collects.assign name value)

end Collects

/-! ## Alternating names and values -/

/-- Names and values in turn. -/
def alternating (pairs : List (String × String)) : List String :=
  pairs.flatMap fun pair => [pair.1, pair.2]

theorem alternating_cons (pair : String × String) (rest : List (String × String)) :
    alternating (pair :: rest) = pair.1 :: pair.2 :: alternating rest := rfl

theorem length_alternating (pairs : List (String × String)) :
    (alternating pairs).length = 2 * pairs.length := by
  induction pairs with
  | nil => rfl
  | cons pair rest ih =>
      rw [alternating_cons, List.length_cons, List.length_cons, List.length_cons, ih]
      omega

/-- Nothing is lost when pairs are written in turn and read again. -/
theorem paired_alternating (pairs : List (String × String)) :
    paired (alternating pairs) = pairs := by
  induction pairs with
  | nil => rfl
  | cons pair rest ih => rw [alternating_cons, paired, ih]

/-- A list of even length is that of its pairs. -/
theorem alternating_paired {items : List String} (even : items.length % 2 = 0) :
    alternating (paired items) = items := by
  induction items using paired.induct with
  | case1 name value rest ih =>
      have evenRest : rest.length % 2 = 0 := by
        rw [List.length_cons, List.length_cons] at even
        omega
      rw [paired, alternating_cons, ih evenRest]
  | case2 items unpaired =>
      -- What has no two items in front is empty or, against the hypothesis, a single item.
      match items, unpaired with
      | [], _ => rfl
      | [_], _ => cases even
      | name :: value :: rest, unpaired => exact absurd rfl (unpaired name value rest)

theorem ofAlternating_alternating (pairs : List (String × String)) :
    ofAlternating (alternating pairs) = ofPairs pairs := by
  have even : (alternating pairs).length % 2 = 0 := by
    rw [length_alternating, Nat.mul_mod_right]
  rw [ofAlternating, if_pos even, paired_alternating]

/-! ## The two ways to build a set -/

/-- **A list becomes a set when a document can hold its names**, which then stand where they first
occur, with their last values; names and values in turn become the set of their pairs, unless one
of them is left over; and every set is built again from its own entries, in both ways. -/
theorem built_from_lists :
    (∀ pairs : List (String × String),
      if (pairs.map Prod.fst).toFinset.card ≤ capacity then
        ∃ set, ofPairs pairs = .ok set ∧ set.Collects pairs
      else ofPairs pairs = .error (.tooMany 31)) ∧
    (∀ items : List String,
      if items.length % 2 = 1 then ofAlternating items = .error (.unpaired items.length)
      else ∃ pairs, alternating pairs = items ∧ ofAlternating items = ofPairs pairs) ∧
    ∀ set : DimensionSet, set.Constructible →
      ofPairs set.entries = .ok set ∧ ofAlternating (alternating set.entries) = .ok set := by
  refine ⟨fun pairs => ?_, fun items => ?_, fun set constructible => ?_⟩
  · have built := ofPairs_eq pairs
    split
    · rename_i room
      rw [if_pos room] at built
      exact ⟨_, built, by simpa using Collects.empty.overlay ⟨pairs⟩⟩
    · rename_i noRoom
      rw [if_neg noRoom] at built
      exact built
  · split
    · rename_i odd
      rw [ofAlternating, if_neg]
      omega
    · rename_i notOdd
      have even : items.length % 2 = 0 := by omega
      refine ⟨paired items, alternating_paired even, ?_⟩
      rw [ofAlternating, if_pos even]
  · have built := ofPairs_entries constructible.wellFormed
    rw [ofAlternating_alternating]
    exact ⟨built, built⟩

/-- A set built from pairs that name something twice is built again from names and values in
turn. -/
theorem built_from_lists_repeated :
    let stage : DimensionSet := ⟨[("Stage", "prod"), ("Route", "buy")]⟩
    ofPairs [("Stage", "beta"), ("Route", "buy"), ("Stage", "prod")] = .ok stage ∧
      stage.Constructible ∧ ofAlternating ["Stage", "prod", "Route", "buy"] = .ok stage := by
  intro stage
  have built : ofPairs [("Stage", "beta"), ("Route", "buy"), ("Stage", "prod")] = .ok stage := by
    decide
  have constructible : stage.Constructible := .ofPairs built
  exact ⟨built, constructible, (built_from_lists.2.2 stage constructible).2⟩

end MetricEmitter.DimensionSet
