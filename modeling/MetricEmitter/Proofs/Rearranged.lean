/-!
# Rearranged lists

Each item of a list is about one topic. A list is rearranged if items about
different topics change places while the items about one topic stay in their
order (`Rearranged`). Such lists have the same items, since they have the same
items about each topic. To see that a list is a rearrangement it is enough to
look at the topics that occur (`Rearranged.of_mem`).
-/

set_option autoImplicit false

namespace MetricEmitter

variable {α τ : Type} [DecidableEq τ] {topic : α → τ} {first second : List α}

/-- The items about one topic, in their order. -/
def concerning (topic : α → τ) (chosen : τ) (items : List α) : List α :=
  items.filter fun item => topic item = chosen

/-- Both lists have the same items about each topic, in the same order. -/
def Rearranged (topic : α → τ) (first second : List α) : Prop :=
  ∀ chosen, concerning topic chosen first = concerning topic chosen second

theorem concerning_cons_self (item : α) (rest : List α) :
    concerning topic (topic item) (item :: rest) =
      item :: concerning topic (topic item) rest :=
  List.filter_cons_of_pos (decide_eq_true rfl)

theorem concerning_cons_of_ne {item : α} {chosen : τ} (apart : topic item ≠ chosen)
    (rest : List α) : concerning topic chosen (item :: rest) = concerning topic chosen rest :=
  List.filter_cons_of_neg fun here => apart (of_decide_eq_true here)

theorem concerning_eq_nil {chosen : τ} {items : List α}
    (absent : ∀ item ∈ items, topic item ≠ chosen) : concerning topic chosen items = [] :=
  List.filter_eq_nil_iff.mpr fun item member => by simpa using absent item member

namespace Rearranged

/-- Topics that do not occur need not be looked at. -/
theorem of_mem (agree : ∀ item ∈ first ++ second,
    concerning topic (topic item) first = concerning topic (topic item) second) :
    Rearranged topic first second := by
  intro chosen
  by_cases occurs : ∃ item ∈ first ++ second, topic item = chosen
  · obtain ⟨item, member, rfl⟩ := occurs
    exact agree item member
  · have absent : ∀ item ∈ first ++ second, topic item ≠ chosen := fun item member same =>
      occurs ⟨item, member, same⟩
    obtain ⟨fromFirst, fromSecond⟩ := List.forall_mem_append.mp absent
    rw [concerning_eq_nil fromFirst, concerning_eq_nil fromSecond]

end Rearranged

end MetricEmitter
