import Mathlib.Data.List.Induction
import MetricEmitter.Table

/-!
# The names and entries of a table

A table names nothing twice, since its names increase (`Table.nodup_names`). The
statements after it say which names a table has that is made by insertion, from
a list of entries, by selection or by a change of the values.

The entries of a table are its answers (`Table.mem_entries_iff`), so a table
falls into the entry for one name and the rest (`Table.entries_perm`).
-/

set_option autoImplicit false

namespace MetricEmitter.Table

variable {α β : Type} {table : Table α} {name query : String}

/-- **A table names nothing twice.** -/
theorem nodup_names (table : Table α) : table.names.Nodup := by
  apply List.pairwise_map.mpr
  apply table.ascending.imp
  intro first second below same
  exact String.lt_irrefl _ (same ▸ below)

theorem contains_iff : table.contains name = true ↔ name ∈ table.names := by
  simp [contains, get?, names]

@[simp] theorem names_empty : (empty : Table α).names = [] := rfl

theorem mem_names_insert {value : α} :
    query ∈ (table.insert name value).names ↔ query ∈ table.names ∨ query = name := by
  rw [← contains_iff, ← contains_iff, contains, contains, get?_insert]
  by_cases same : query = name
  · simp [same]
  · simp [same]

theorem mem_names_ofList {entries : List (String × α)} :
    query ∈ (ofList entries).names ↔ query ∈ entries.map Prod.fst := by
  -- The induction is on the entries still to be inserted into a table that already has names.
  have inserted : ∀ (entries : List (String × α)) (table : Table α),
      query ∈ (entries.foldl (fun table entry => table.insert entry.1 entry.2) table).names ↔
        query ∈ table.names ∨ query ∈ entries.map Prod.fst := by
    intro entries
    induction entries with
    | nil => intro table; simp
    | cons entry rest ih =>
        intro table
        rw [List.foldl_cons, ih, mem_names_insert, List.map_cons, List.mem_cons, or_assoc]
  rw [ofList, inserted, names_empty]
  simp

/-- A selection by name has the names that satisfy the condition. -/
theorem names_filter (table : Table α) (condition : String → Bool) :
    (table.filter fun name _ => condition name).names = table.names.filter condition := by
  rw [names, names, List.filter_map]
  rfl

@[simp] theorem names_mapValues (table : Table α) (change : α → β) :
    (table.mapValues change).names = table.names := by
  rw [names, mapValues, List.map_map]
  rfl

/-- Changed values are found under the same names. -/
theorem get?_mapValues (table : Table α) (change : α → β) (query : String) :
    (table.mapValues change).get? query = (table.get? query).map change := by
  change (table.entries.map fun entry => (entry.1, change entry.2)).lookup query =
    (table.entries.lookup query).map change
  induction table.entries with
  | nil => rfl
  | cons head rest ih =>
      rw [List.map_cons, lookup_cons, lookup_cons, ih]
      split <;> rfl

/-! ## Entries

What a table answers is what stands in it, so that entries can be chosen, taken out and counted by
their names. -/

/-- A name that stands once among the entries has the value it stands with. -/
theorem lookup_eq_some_iff {entries : List (String × α)} {value : α}
    (distinct : (entries.map Prod.fst).Nodup) :
    entries.lookup name = some value ↔ (name, value) ∈ entries := by
  induction entries with
  | nil => simp
  | cons head rest ih =>
      obtain ⟨fresh, tail⟩ := List.nodup_cons.mp distinct
      rw [lookup_cons, List.mem_cons]
      by_cases here : name = head.1
      · have gone : (name, value) ∉ rest := fun member =>
          fresh (here ▸ List.mem_map_of_mem member)
        rw [if_pos here, or_iff_left gone, Option.some_inj]
        constructor
        · intro same
          exact Prod.ext here same.symm
        · intro same
          exact (congrArg Prod.snd same).symm
      · rw [if_neg here, ih tail]
        exact (or_iff_right fun same => here (congrArg Prod.fst same)).symm

/-- **The entries of a table are its answers.** -/
theorem mem_entries_iff {value : α} :
    (name, value) ∈ table.entries ↔ table.get? name = some value :=
  (lookup_eq_some_iff table.nodup_names).symm

theorem mem_names_iff : name ∈ table.names ↔ ∃ value, table.get? name = some value := by
  rw [← contains_iff, contains, Option.isSome_iff_exists]

theorem nodup_entries (table : Table α) : table.entries.Nodup := by
  apply table.ascending.imp
  intro first second below same
  exact String.lt_irrefl _ (same ▸ below)

theorem mem_of_get?_ofList {entries : List (String × α)} {value : α}
    (found : (ofList entries).get? name = some value) : (name, value) ∈ entries := by
  -- The induction is on the entries from the last one on, which is inserted last.
  induction entries using List.reverseRecOn with
  | nil => cases found
  | append_singleton earlier last ih =>
      rw [ofList, List.foldl_append, List.foldl_cons, List.foldl_nil, get?_insert] at found
      split at found
      · rename_i same
        rw [same, ← Option.some.inj found]
        exact List.mem_append_right _ List.mem_cons_self
      · exact List.mem_append_left _ (ih found)

/-- Entries of a table that leave out none of its names make up the table, in whatever order and
however often they are listed. -/
theorem ofList_eq {entries : List (String × α)}
    (held : ∀ entry ∈ entries, table.get? entry.1 = some entry.2)
    (covered : ∀ name ∈ table.names, name ∈ entries.map Prod.fst) : ofList entries = table := by
  apply ext_get?
  intro name
  cases found : (ofList entries).get? name with
  | some value => exact (held _ (mem_of_get?_ofList found)).symm
  | none =>
      have unlisted : name ∉ entries.map Prod.fst := by
        rw [← mem_names_ofList, mem_names_iff, found]
        rintro ⟨value, impossible⟩
        cases impossible
      exact (Option.eq_none_iff_forall_ne_some.mpr fun value kept =>
        unlisted (covered name (mem_names_iff.mpr ⟨value, kept⟩))).symm

/-- The table without an entry for one name. -/
def erase (table : Table α) (name : String) : Table α :=
  table.filter fun query _ => decide (query ≠ name)

theorem get?_erase : (table.erase name).get? query =
    if query = name then none else table.get? query := by
  rw [erase, get?_filter]
  by_cases same : query = name
  · cases table.get? query <;> simp [Option.filter, same]
  · cases table.get? query <;> simp [Option.filter, same]

theorem erase_insert (table : Table α) (name : String) (value : α) :
    (table.insert name value).erase name = table.erase name := by
  apply ext_get?
  intro query
  rw [get?_erase, get?_erase, get?_insert]
  split <;> rfl

/-- A table is the entry for a name, if there is one, and the table without it. -/
theorem entries_perm (table : Table α) (name : String) :
    table.entries.Perm
      ((table.get? name).toList.map (fun value => (name, value)) ++
        (table.erase name).entries) := by
  have distinct : ((table.get? name).toList.map (fun value => (name, value)) ++
      (table.erase name).entries).Nodup := by
    refine List.nodup_append.mpr ⟨?_, nodup_entries _, ?_⟩
    · cases table.get? name <;> simp
    · rintro first single ⟨other, value⟩ member same
      obtain ⟨held, _, rfl⟩ := List.mem_map.mp single
      cases same
      rw [mem_entries_iff, get?_erase, if_pos rfl] at member
      cases member
  rw [List.perm_ext_iff_of_nodup table.nodup_entries distinct]
  rintro ⟨query, value⟩
  rw [List.mem_append, mem_entries_iff, mem_entries_iff, get?_erase, List.mem_map]
  by_cases same : query = name
  · subst same
    simp
  · simp [same, Ne.symm same]

end MetricEmitter.Table
