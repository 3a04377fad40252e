/-!
# Name-sorted tables

A table holds at most one value for each name and lists its entries in the
order of their names, which is the order of their UTF-8 bytes. Since the order
is part of the type, a table is determined by what it answers: two tables that
find the same value under every name are equal (`Table.ext_get?`).

`Table.get?_insert` and `Table.get?_filter` say what the two operations do to
the answers, and after them no proof has to look inside a table.
-/

set_option autoImplicit false

namespace MetricEmitter

/-- Entries whose names strictly increase. -/
def Ascending {α : Type} (entries : List (String × α)) : Prop :=
  entries.Pairwise fun earlier later => earlier.1 < later.1

/-- At most one value for each name, in the order of the names. -/
structure Table (α : Type) where
  entries : List (String × α)
  ascending : Ascending entries

namespace Table

variable {α : Type}

theorem ext {first second : Table α} (same : first.entries = second.entries) : first = second := by
  cases first
  cases second
  cases same
  rfl

instance [DecidableEq α] : DecidableEq (Table α) := fun first second =>
  decidable_of_iff (first.entries = second.entries) ⟨ext, fun same => same ▸ rfl⟩

def empty : Table α := ⟨[], List.Pairwise.nil⟩

instance : Inhabited (Table α) := ⟨empty⟩

/-- The value held for a name. -/
def get? (table : Table α) (name : String) : Option α :=
  table.entries.lookup name

/-- Whether a value is held for a name. -/
def contains (table : Table α) (name : String) : Bool :=
  (table.get? name).isSome

/-- The names in increasing order. -/
def names (table : Table α) : List String :=
  table.entries.map Prod.fst

/-! ## Insertion -/

/-- Puts a value at the place of its name, in place of the value held there. -/
def place (name : String) (value : α) : List (String × α) → List (String × α)
  | [] => [(name, value)]
  | (head, held) :: rest =>
      if name < head then (name, value) :: (head, held) :: rest
      else if name = head then (name, value) :: rest
      else (head, held) :: place name value rest

theorem mem_place {name : String} {value : α} {entry : String × α} {entries : List (String × α)}
    (member : entry ∈ place name value entries) : entry = (name, value) ∨ entry ∈ entries := by
  induction entries with
  | nil => exact Or.inl (by simpa [place] using member)
  | cons head rest ih =>
      obtain ⟨key, held⟩ := head
      unfold place at member
      split at member
      · rcases List.mem_cons.mp member with here | there
        · exact Or.inl here
        · exact Or.inr there
      · split at member
        · rcases List.mem_cons.mp member with here | there
          · exact Or.inl here
          · exact Or.inr (List.mem_cons_of_mem _ there)
        · rcases List.mem_cons.mp member with here | there
          · exact Or.inr (here ▸ List.mem_cons_self)
          · rcases ih there with new | old
            · exact Or.inl new
            · exact Or.inr (List.mem_cons_of_mem _ old)

theorem lt_of_not_lt_of_ne {first second : String} (notBelow : ¬ first < second)
    (different : first ≠ second) : second < first := by
  by_cases below : second < first
  · exact below
  · exact absurd (String.le_antisymm (String.not_lt.mp below) (String.not_lt.mp notBelow)) different

theorem ascending_place (name : String) (value : α) {entries : List (String × α)}
    (ascending : Ascending entries) : Ascending (place name value entries) := by
  induction entries with
  | nil => exact List.pairwise_singleton _ _
  | cons head rest ih =>
      obtain ⟨key, held⟩ := head
      have above := (List.pairwise_cons.mp ascending).1
      have tail := (List.pairwise_cons.mp ascending).2
      unfold place
      split
      · rename_i below
        refine List.pairwise_cons.mpr ⟨fun entry member => ?_, ascending⟩
        rcases List.mem_cons.mp member with here | there
        · exact here ▸ below
        · exact String.lt_trans below (above entry there)
      · rename_i notBelow
        split
        · rename_i same
          exact List.pairwise_cons.mpr ⟨fun entry member => same ▸ above entry member, tail⟩
        · rename_i different
          refine List.pairwise_cons.mpr ⟨fun entry member => ?_, ih tail⟩
          rcases mem_place member with new | old
          · exact new ▸ lt_of_not_lt_of_ne notBelow different
          · exact above entry old

/-- The table with a value under a name, whatever it held there before. -/
def insert (table : Table α) (name : String) (value : α) : Table α :=
  ⟨place name value table.entries, ascending_place name value table.ascending⟩

/-- The table of the given entries, a later entry replacing an earlier one of its name. -/
def ofList (entries : List (String × α)) : Table α :=
  entries.foldl (fun table entry => table.insert entry.1 entry.2) empty

/-! ## Selection -/

/-- The entries that satisfy a condition. -/
def filter (table : Table α) (condition : String → α → Bool) : Table α :=
  ⟨table.entries.filter fun entry => condition entry.1 entry.2,
    List.Pairwise.sublist List.filter_sublist table.ascending⟩

/-- The same names with other values. -/
def mapValues {β : Type} (table : Table α) (change : α → β) : Table β where
  entries := table.entries.map fun entry => (entry.1, change entry.2)
  ascending := by exact List.pairwise_map.mpr table.ascending

/-! ## Answers -/

theorem lookup_cons (query : String) (head : String × α) (rest : List (String × α)) :
    (head :: rest).lookup query = if query = head.1 then some head.2 else rest.lookup query := by
  obtain ⟨key, held⟩ := head
  rw [List.lookup_cons]
  by_cases here : query = key
  · rw [if_pos here, beq_iff_eq.mpr here]
  · rw [if_neg here, beq_eq_false_iff_ne.mpr here]

theorem lookup_place (name query : String) (value : α) (entries : List (String × α)) :
    (place name value entries).lookup query =
      if query = name then some value else entries.lookup query := by
  induction entries with
  | nil => by_cases same : query = name <;> simp [place, lookup_cons, same]
  | cons head rest ih =>
      obtain ⟨key, held⟩ := head
      unfold place
      split
      · by_cases same : query = name <;> simp [lookup_cons, same]
      · split
        · rename_i equal
          subst equal
          by_cases same : query = name <;> simp [lookup_cons, same]
        · rename_i different
          by_cases here : query = key
          · subst here
            simp [Ne.symm different]
          · simp [lookup_cons, here, ih]

theorem lookup_eq_none_of_below {name : String} {entries : List (String × α)}
    (below : ∀ entry ∈ entries, name < entry.1) : entries.lookup name = none := by
  induction entries with
  | nil => rfl
  | cons head rest ih =>
      have apart : name ≠ head.1 := fun same =>
        String.lt_irrefl head.1 (same ▸ below head List.mem_cons_self)
      rw [lookup_cons, ih fun entry member => below entry (List.mem_cons_of_mem _ member)]
      simp [apart]

theorem lookup_filter (condition : String → α → Bool) (name : String)
    {entries : List (String × α)} (ascending : Ascending entries) :
    (entries.filter fun entry => condition entry.1 entry.2).lookup name =
      (entries.lookup name).filter (condition name) := by
  induction entries with
  | nil => rfl
  | cons head rest ih =>
      obtain ⟨key, held⟩ := head
      have above := (List.pairwise_cons.mp ascending).1
      have tail := ih (List.pairwise_cons.mp ascending).2
      by_cases here : name = key
      · subst here
        by_cases chosen : condition name held
        · simp [chosen, Option.filter]
        · rw [List.filter_cons_of_neg (by simpa using chosen), tail,
            lookup_eq_none_of_below above]
          simp [Option.filter, chosen]
      · by_cases chosen : condition key held
        · rw [List.filter_cons_of_pos (by simpa using chosen)]
          simp [lookup_cons, here, tail]
        · rw [List.filter_cons_of_neg (by simpa using chosen), tail]
          simp [lookup_cons, here]

theorem eq_of_lookup_eq {first second : List (String × α)} (ascendingFirst : Ascending first)
    (ascendingSecond : Ascending second)
    (agree : ∀ name, first.lookup name = second.lookup name) : first = second := by
  induction first generalizing second with
  | nil =>
      cases second with
      | nil => rfl
      | cons head rest => simpa [lookup_cons] using agree head.1
  | cons head rest ih =>
      cases second with
      | nil => simpa [lookup_cons] using agree head.1
      | cons other others =>
          have above := (List.pairwise_cons.mp ascendingFirst).1
          have aboveOther := (List.pairwise_cons.mp ascendingSecond).1
          have missing : ∀ {name : String} {entry : String × α} {entries : List (String × α)},
              name < entry.1 → (∀ later ∈ entries, entry.1 < later.1) →
              (entry :: entries).lookup name = none := fun below later =>
            lookup_eq_none_of_below fun entry member => by
              rcases List.mem_cons.mp member with here | there
              · exact here ▸ below
              · exact String.lt_trans below (later entry there)
          have sameName : head.1 = other.1 := by
            by_cases below : head.1 < other.1
            · have answer := agree head.1
              rw [missing below aboveOther] at answer
              simp [lookup_cons] at answer
            · by_cases different : head.1 = other.1
              · exact different
              · have answer := agree other.1
                rw [missing (lt_of_not_lt_of_ne below different) above] at answer
                simp [lookup_cons] at answer
          have sameValue : head.2 = other.2 := by
            simpa [lookup_cons, sameName] using agree head.1
          have sameHead : head = other := Prod.ext sameName sameValue
          subst sameHead
          refine congrArg (head :: ·) (ih (List.pairwise_cons.mp ascendingFirst).2
            (List.pairwise_cons.mp ascendingSecond).2 fun name => ?_)
          by_cases here : name = head.1
          · subst here
            rw [lookup_eq_none_of_below above, lookup_eq_none_of_below aboveOther]
          · simpa [lookup_cons, here] using agree name

@[simp] theorem get?_empty (query : String) : (empty : Table α).get? query = none := rfl

/-- An inserted value answers for its name and leaves the other answers alone. -/
@[simp] theorem get?_insert (table : Table α) (name query : String) (value : α) :
    (table.insert name value).get? query =
      if query = name then some value else table.get? query :=
  lookup_place name query value table.entries

/-- A selection answers with the values that satisfy the condition under their names. -/
@[simp] theorem get?_filter (table : Table α) (condition : String → α → Bool) (query : String) :
    (table.filter condition).get? query = (table.get? query).filter (condition query) :=
  lookup_filter condition query table.ascending

/-- **A table is determined by its answers.** -/
theorem ext_get? {first second : Table α} (agree : ∀ name, first.get? name = second.get? name) :
    first = second :=
  ext (eq_of_lookup_eq first.ascending second.ascending agree)

end Table

end MetricEmitter
