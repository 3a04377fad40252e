import MetricEmitter.Table

/-!
# Dimension sets

A dimension set is one combination of dimension names with their values, in the
order in which the names were declared. A document may list at most
`DimensionSet.capacity` names in one set.

There are three ways to unite two sets. `DimensionSet.ofPairs` adds pairs one
by one and stops at the first that does not fit, `DimensionSet.merge` counts the
united names first, and `DimensionSet.overlay` does not look at the number of
names at all. In all three a name keeps the place where it first occurs and the
value it was given last, because all three give names their values by
`DimensionSet.assign`: `names_assign` says what that does to the places, and
`value?_assign` what it does to the values.
-/

set_option autoImplicit false

namespace MetricEmitter

/-- Why a combination of dimensions is refused. -/
inductive DimensionError where
  /-- The combination would hold this many names. -/
  | tooMany (count : Nat)
  /-- A list of alternating names and values has this odd length. -/
  | unpaired (length : Nat)
  deriving DecidableEq, Repr

/-- One combination of dimensions: names with their values, in the order of declaration. -/
structure DimensionSet where
  entries : List (String × String)
  deriving DecidableEq, Repr

namespace DimensionSet

/-- How many names one dimension set of a document may list. -/
def capacity : Nat := 30

def empty : DimensionSet := ⟨[]⟩

instance : Inhabited DimensionSet := ⟨empty⟩

/-- The names in the order of declaration. -/
def names (set : DimensionSet) : List String :=
  set.entries.map Prod.fst

def size (set : DimensionSet) : Nat :=
  set.entries.length

def isEmpty (set : DimensionSet) : Bool :=
  set.entries.isEmpty

def value? (set : DimensionSet) (name : String) : Option String :=
  set.entries.lookup name

def contains (set : DimensionSet) (name : String) : Bool :=
  set.names.contains name

/-! ## Giving a name its value -/

/-- Gives a name its value at its place in the list, or at the end if it has none. -/
def assignEntry (name value : String) : List (String × String) → List (String × String)
  | [] => [(name, value)]
  | (head, held) :: rest =>
      if head = name then (head, value) :: rest
      else (head, held) :: assignEntry name value rest

/-- The set in which a name has the given value, whatever the number of names. -/
def assign (set : DimensionSet) (name value : String) : DimensionSet :=
  ⟨assignEntry name value set.entries⟩

/-- The assigned value answers for its name, and the other answers stay. -/
@[simp] theorem value?_assign (set : DimensionSet) (name value query : String) :
    (set.assign name value).value? query =
      if query = name then some value else set.value? query := by
  obtain ⟨entries⟩ := set
  simp only [value?, assign]
  induction entries with
  | nil => by_cases same : query = name <;> simp [assignEntry, same]
  | cons entry rest ih =>
      obtain ⟨head, held⟩ := entry
      by_cases here : head = name
      · subst here
        by_cases same : query = head <;> simp [assignEntry, Table.lookup_cons, same]
      · by_cases same : query = head
        · subst same
          simp [assignEntry, here]
        · simp [assignEntry, Table.lookup_cons, here, same, ih]

/-- A declared name keeps its place, and a new one comes last. -/
theorem names_assign (set : DimensionSet) (name value : String) :
    (set.assign name value).names =
      if name ∈ set.names then set.names else set.names ++ [name] := by
  obtain ⟨entries⟩ := set
  simp only [names, assign]
  induction entries with
  | nil => simp [assignEntry]
  | cons entry rest ih =>
      obtain ⟨head, held⟩ := entry
      by_cases here : head = name
      · simp [assignEntry, here]
      · rw [assignEntry, if_neg here, List.map_cons, ih]
        by_cases later : name ∈ rest.map Prod.fst
        · simp [later]
        · simp [later, Ne.symm here]

/-- Adds a dimension, or replaces its value. A new name needs room. -/
def add (set : DimensionSet) (name value : String) : Except DimensionError DimensionSet :=
  if set.contains name || set.size < capacity then .ok (set.assign name value)
  else .error (.tooMany (set.size + 1))

def addAll (set : DimensionSet) : List (String × String) → Except DimensionError DimensionSet
  | [] => .ok set
  | (name, value) :: rest =>
      match set.add name value with
      | .ok extended => extended.addAll rest
      | .error reason => .error reason

/-- The set of the given dimensions, the last value of each name. -/
def ofPairs (pairs : List (String × String)) : Except DimensionError DimensionSet :=
  empty.addAll pairs

/-- Consecutive items as pairs; a last item without a partner is left out. -/
def paired : List String → List (String × String)
  | name :: value :: rest => (name, value) :: paired rest
  | _ => []

/-- The set of the dimensions in a list of alternating names and values. -/
def ofAlternating (items : List String) : Except DimensionError DimensionSet :=
  if items.length % 2 = 0 then ofPairs (paired items)
  else .error (.unpaired items.length)

/-! ## Union -/

/-- The number of names of both sets together. -/
def unionSize (base top : DimensionSet) : Nat :=
  base.size + top.names.countP fun name => !base.contains name

/-- The union of both sets, the values of the second one winning, whatever the number of names. -/
def overlay (base top : DimensionSet) : DimensionSet :=
  top.entries.foldl (fun united entry => united.assign entry.1 entry.2) base

/-- The union of both sets, the values of the second one winning, if a document can hold it. -/
def merge (base top : DimensionSet) : Except DimensionError DimensionSet :=
  if base.unionSize top ≤ capacity then .ok (base.overlay top)
  else .error (.tooMany (base.unionSize top))

end DimensionSet

/-- The wording of a refusal. -/
def DimensionError.message : DimensionError → String
  | .tooMany count =>
      "dimension set would hold " ++ toString count ++ " dimensions, the maximum is " ++
        toString DimensionSet.capacity
  | .unpaired length =>
      "dimension names and values must come in pairs, got " ++ toString length ++ " items"

end MetricEmitter
