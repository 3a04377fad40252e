import Mathlib.Data.Finset.Card
import Mathlib.Data.Finset.Lattice.Lemmas
import MetricEmitter.Dimension.DimensionSet
import MetricEmitter.Proofs.Table

/-!
# The union of dimension sets

`DimensionSet.overlay` unites two sets entry by entry, `DimensionSet.unionSize`
counts the names of the union by a filter, and neither looks at the other. Both
are compared here with the union of the names as a finite set
(`DimensionSet.nameSet`): the union has these names (`nameSet_overlay`), and as
long as the sets name nothing twice the count is its cardinality
(`unionSize_eq_card`).

A set that names nothing twice is determined by its names, in their order, and
by its values (`eq_of_names_of_values`). What an overlay does to both is known
(`names_overlay`, `value?_overlay`), so overlays can be compared without looking
at how they are made: the empty set changes nothing, a set adds nothing to
itself, and the order in which three sets are united makes no difference
(`overlay_assoc`).
-/

set_option autoImplicit false

namespace MetricEmitter.DimensionSet

/-- The names of a set, without their order. -/
def nameSet (set : DimensionSet) : Finset String :=
  set.names.toFinset

@[simp] theorem mem_nameSet {set : DimensionSet} {name : String} :
    name ∈ set.nameSet ↔ name ∈ set.names :=
  List.mem_toFinset

theorem names_cons (name value : String) (rest : List (String × String)) :
    names ⟨(name, value) :: rest⟩ = name :: names ⟨rest⟩ := rfl

theorem value?_cons (name value query : String) (rest : List (String × String)) :
    value? ⟨(name, value) :: rest⟩ query =
      if query = name then some value else value? ⟨rest⟩ query :=
  Table.lookup_cons query (name, value) rest

theorem size_eq_length_names (set : DimensionSet) : set.size = set.names.length :=
  (List.length_map Prod.fst).symm

/-- A set that names nothing twice has as many names as entries. -/
theorem card_nameSet {set : DimensionSet} (distinct : set.names.Nodup) :
    set.nameSet.card = set.size := by
  rw [size_eq_length_names]
  exact List.toFinset_card_of_nodup distinct

theorem contains_iff {set : DimensionSet} {name : String} :
    set.contains name = true ↔ name ∈ set.names := by
  rw [contains, List.contains_iff_mem]

/-- There is a value exactly under the names of the set. -/
theorem value?_isSome_iff {set : DimensionSet} {name : String} :
    (set.value? name).isSome ↔ name ∈ set.names := by
  simp [value?, names]

theorem value?_eq_none {set : DimensionSet} {name : String} (absent : name ∉ set.names) :
    set.value? name = none := by
  rw [← value?_isSome_iff] at absent
  simpa using absent

/-! ## Names and values determine a set -/

/-- The entries of a set that names nothing twice are its names with their values. -/
theorem entries_eq_map_names {set : DimensionSet} (distinct : set.names.Nodup) :
    set.entries = set.names.map fun name => (name, (set.value? name).getD "") := by
  rw [names, List.map_map]
  conv_lhs => rw [← List.map_id set.entries]
  refine List.map_congr_left fun entry member => ?_
  have held : set.value? entry.1 = some entry.2 :=
    (Table.lookup_eq_some_iff distinct).mpr member
  rw [Function.comp_apply, held]
  rfl

/-- **Sets that name nothing twice are equal if they have the same names in the same order, with the
same values.** -/
theorem eq_of_names_of_values {first second : DimensionSet} (distinct : first.names.Nodup)
    (names : first.names = second.names)
    (values : ∀ name, first.value? name = second.value? name) : first = second := by
  have entries : first.entries = second.entries := by
    rw [entries_eq_map_names distinct, entries_eq_map_names (names ▸ distinct), names]
    simp only [values]
  cases first
  cases second
  exact congrArg mk entries

/-! ## Assignment -/

theorem mem_names_assign {set : DimensionSet} {name value query : String} :
    query ∈ (set.assign name value).names ↔ query ∈ set.names ∨ query = name := by
  rw [names_assign]
  split
  · rename_i declared
    constructor
    · exact Or.inl
    · rintro (member | same)
      · exact member
      · exact same ▸ declared
  · simp

/-- An assigned name can be counted with the names that follow. -/
theorem nameSet_assign_union (set : DimensionSet) (name value : String)
    (rest : List (String × String)) :
    (set.assign name value).nameSet ∪ nameSet ⟨rest⟩ =
      set.nameSet ∪ nameSet ⟨(name, value) :: rest⟩ := by
  ext query
  simp only [Finset.mem_union, mem_nameSet, mem_names_assign, names_cons, List.mem_cons, or_assoc]

/-- Assignment names nothing twice. -/
theorem nodup_names_assign {set : DimensionSet} (distinct : set.names.Nodup)
    (name value : String) : (set.assign name value).names.Nodup := by
  rw [names_assign]
  split
  · exact distinct
  · rename_i fresh
    refine List.nodup_append.mpr ⟨distinct, List.nodup_singleton name, ?_⟩
    intro earlier member later single same
    rw [List.mem_singleton] at single
    exact fresh (single ▸ same ▸ member)

/-- Assignment adds one name at most, and none to a set that has it. -/
theorem size_assign (set : DimensionSet) (name value : String) :
    (set.assign name value).size = if name ∈ set.names then set.size else set.size + 1 := by
  rw [size_eq_length_names, names_assign, size_eq_length_names]
  split
  · rfl
  · simp

/-! ## Overlay -/

@[simp] theorem overlay_nil (base : DimensionSet) : base.overlay ⟨[]⟩ = base := rfl

theorem overlay_cons (base : DimensionSet) (name value : String)
    (rest : List (String × String)) :
    base.overlay ⟨(name, value) :: rest⟩ = (base.assign name value).overlay ⟨rest⟩ := rfl

/-- The union has the names of both sets. -/
theorem nameSet_overlay (base top : DimensionSet) :
    (base.overlay top).nameSet = base.nameSet ∪ top.nameSet := by
  obtain ⟨entries⟩ := top
  induction entries generalizing base with
  | nil => simp [nameSet, names]
  | cons entry rest ih =>
      obtain ⟨name, value⟩ := entry
      rw [overlay_cons, ih, nameSet_assign_union]

/-- The union names nothing twice if the base does not. -/
theorem nodup_names_overlay {base : DimensionSet} (distinct : base.names.Nodup)
    (top : DimensionSet) : (base.overlay top).names.Nodup := by
  obtain ⟨entries⟩ := top
  induction entries generalizing base with
  | nil => exact distinct
  | cons entry rest ih =>
      obtain ⟨name, value⟩ := entry
      rw [overlay_cons]
      exact ih (nodup_names_assign distinct name value)

/-- **The names of the union are those of the base, then the new ones of the top**, each in the
order of its own set. -/
theorem names_overlay (base : DimensionSet) {top : DimensionSet} (distinct : top.names.Nodup) :
    (base.overlay top).names =
      base.names ++ top.names.filter fun name => !base.contains name := by
  obtain ⟨entries⟩ := top
  induction entries generalizing base with
  | nil => simp [names]
  | cons entry rest ih =>
      obtain ⟨name, value⟩ := entry
      obtain ⟨fresh, tail⟩ := List.nodup_cons.mp distinct
      rw [overlay_cons, ih _ tail, names_assign, names_cons]
      by_cases declared : name ∈ base.names
      · have same : (base.assign name value).contains = base.contains := by
          funext query
          rw [contains, contains, names_assign, if_pos declared]
        have dropped : ¬(!base.contains name) = true := by
          simpa only [Bool.not_eq_true', Bool.not_eq_false, contains_iff] using declared
        rw [if_pos declared, same, List.filter_cons, if_neg dropped]
      · have kept : (!base.contains name) = true := by
          rw [Bool.not_eq_true', ← Bool.not_eq_true, contains_iff]
          exact declared
        have others :
            (names ⟨rest⟩).filter (fun query => !(base.assign name value).contains query) =
              (names ⟨rest⟩).filter (fun query => !base.contains query) := by
          apply List.filter_congr
          intro query member
          have apart : query ≠ name := fun same => fresh (same ▸ member)
          rw [contains, contains, names_assign, if_neg declared]
          simp [apart]
        rw [if_neg declared, others, List.filter_cons, if_pos kept, List.append_assoc]
        rfl

/-- The values of the top win, and the base answers for the other names. -/
theorem value?_overlay (base : DimensionSet) {top : DimensionSet} (distinct : top.names.Nodup)
    (query : String) :
    (base.overlay top).value? query = (top.value? query).or (base.value? query) := by
  obtain ⟨entries⟩ := top
  induction entries generalizing base with
  | nil => rfl
  | cons entry rest ih =>
      obtain ⟨name, value⟩ := entry
      obtain ⟨fresh, tail⟩ := List.nodup_cons.mp distinct
      rw [overlay_cons, ih _ tail, value?_assign, value?_cons]
      by_cases same : query = name
      · -- The rest of the top does not name it again, so the value assigned here stays.
        have gone : value? ⟨rest⟩ query = none := value?_eq_none (same ▸ fresh)
        rw [if_pos same, if_pos same, gone]
        rfl
      · rw [if_neg same, if_neg same]

/-! ## The algebra of overlays -/

section Algebra

variable {first second third set : DimensionSet}

theorem contains_overlay (base top : DimensionSet) (name : String) :
    (base.overlay top).contains name = (base.contains name || top.contains name) := by
  rw [Bool.eq_iff_iff, Bool.or_eq_true, contains_iff, contains_iff, contains_iff, ← mem_nameSet,
    nameSet_overlay, Finset.mem_union, mem_nameSet, mem_nameSet]

theorem empty_overlay (distinct : set.names.Nodup) : empty.overlay set = set := by
  have distinctEmpty : empty.names.Nodup := List.nodup_nil
  refine eq_of_names_of_values (nodup_names_overlay distinctEmpty set) ?_ fun name => ?_
  · rw [names_overlay empty distinct]
    exact List.filter_eq_self.mpr fun name _ => rfl
  · rw [value?_overlay empty distinct]
    exact Option.or_none

theorem overlay_self (distinct : set.names.Nodup) : set.overlay set = set := by
  refine eq_of_names_of_values (nodup_names_overlay distinct set) ?_ fun name => ?_
  · have known : set.names.filter (fun name => !set.contains name) = [] := by
      refine List.filter_eq_nil_iff.mpr fun name declared => ?_
      rw [contains_iff.mpr declared]
      exact Bool.false_ne_true
    rw [names_overlay set distinct, known, List.append_nil]
  · rw [value?_overlay set distinct, Option.or_self]

/-- The names of three sets, laid over one another: each name where it first occurs. -/
theorem names_overlay_overlay (first : DimensionSet) (distinctSecond : second.names.Nodup)
    (distinctThird : third.names.Nodup) :
    ((first.overlay second).overlay third).names =
      first.names ++ second.names.filter (fun name => name ∉ first.names) ++
        third.names.filter fun name => name ∉ first.names ∧ name ∉ second.names := by
  rw [names_overlay _ distinctThird, names_overlay _ distinctSecond]
  congr 1
  · congr 1
    refine List.filter_congr fun name _ => ?_
    rw [Bool.eq_iff_iff, Bool.not_eq_true', ← Bool.not_eq_true, contains_iff, decide_eq_true_eq]
  · refine List.filter_congr fun name _ => ?_
    rw [Bool.eq_iff_iff, contains_overlay, Bool.not_eq_true', Bool.or_eq_false_iff,
      ← Bool.not_eq_true, ← Bool.not_eq_true, contains_iff, contains_iff, decide_eq_true_eq]

/-- **The overlay is associative**, in the order of the names as in the values. -/
theorem overlay_assoc (distinctFirst : first.names.Nodup) (distinctSecond : second.names.Nodup)
    (distinctThird : third.names.Nodup) :
    (first.overlay second).overlay third = first.overlay (second.overlay third) := by
  have distinctTop := nodup_names_overlay distinctSecond third
  refine eq_of_names_of_values (nodup_names_overlay (nodup_names_overlay distinctFirst _) _) ?_
    fun name => ?_
  · rw [names_overlay _ distinctThird, names_overlay _ distinctSecond,
      names_overlay _ distinctTop, names_overlay _ distinctThird, List.filter_append,
      List.filter_filter, List.append_assoc]
    simp only [contains_overlay, Bool.not_or]
  · rw [value?_overlay _ distinctThird, value?_overlay _ distinctSecond,
      value?_overlay _ distinctTop, value?_overlay _ distinctThird, Option.or_assoc]

end Algebra

/-! ## Counting -/

/-- The union has as many entries as were counted. -/
theorem size_overlay (base : DimensionSet) {top : DimensionSet} (distinct : top.names.Nodup) :
    (base.overlay top).size = base.unionSize top := by
  rw [size_eq_length_names, names_overlay base distinct, List.length_append, unionSize,
    size_eq_length_names, List.countP_eq_length_filter]

/-- **The count of a union is the number of names of both sets together.** -/
theorem unionSize_eq_card {base top : DimensionSet} (distinctBase : base.names.Nodup)
    (distinctTop : top.names.Nodup) :
    base.unionSize top = (base.nameSet ∪ top.nameSet).card := by
  rw [← size_overlay base distinctTop, ← nameSet_overlay]
  exact (card_nameSet (nodup_names_overlay distinctBase top)).symm

end MetricEmitter.DimensionSet
