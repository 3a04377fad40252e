import Mathlib.Data.List.DropRight
import MetricEmitter.Text.Blank

/-!
# Text without blank ends

A text is padded when blank characters stand before or after it (`Text.Padded`),
and bare when it neither starts nor ends with one (`Text.Bare`). Trimming takes
the padding away: what is left is bare, and the text is that with padding
(`bare_trimmed`, `padded_trimmed`). There is no other bare text of which this is
true (`trims_iff`), because padding makes no difference to what is trimmed
(`trimmed_eq_of_padded`) and of a bare text nothing is trimmed
(`trimmed_eq_of_bare`).
-/

set_option autoImplicit false

namespace MetricEmitter.Text

/-- There is nothing but blank characters. -/
def AllBlank (characters : List Char) : Prop :=
  ∀ character ∈ characters, isBlank character = true

/-- The one with blank characters before and after it is the other. -/
def Padded (inner outer : List Char) : Prop :=
  ∃ front back, AllBlank front ∧ AllBlank back ∧ outer = front ++ inner ++ back

/-- Neither the first nor the last character is blank. -/
structure Bare (characters : List Char) : Prop where
  head : ∀ nonempty : characters ≠ [], isBlank (characters.head nonempty) = false
  last : ∀ nonempty : characters ≠ [], isBlank (characters.getLast nonempty) = false

/-- A text without its blank ends is the other text. -/
structure Trims (text core : String) : Prop where
  padded : Padded core.toList text.toList
  bare : Bare core.toList

theorem Bare.nil : Bare [] :=
  ⟨fun nonempty => absurd rfl nonempty, fun nonempty => absurd rfl nonempty⟩

/-! ## Trimming characters -/

section Characters

variable {characters inner outer : List Char}

theorem dropEndWhile_eq_rdropWhile {α : Type} (condition : α → Bool) (items : List α) :
    dropEndWhile condition items = items.rdropWhile condition := rfl

theorem dropEndWhile_append {α : Type} {condition : α → Bool} {items more : List α}
    (dropped : ∀ item ∈ more, condition item = true) :
    dropEndWhile condition (items ++ more) = dropEndWhile condition items := by
  rw [dropEndWhile, dropEndWhile, List.reverse_append, List.dropWhile_append_of_pos]
  intro item member
  exact dropped item (List.mem_reverse.mp member)

/-- **Padding makes no difference to what is trimmed.** -/
theorem trimmed_eq_of_padded (padded : Padded inner outer) : trimmed outer = trimmed inner := by
  obtain ⟨front, back, frontBlank, backBlank, rfl⟩ := padded
  rw [trimmed, trimmed, List.append_assoc, List.dropWhile_append_of_pos frontBlank,
    List.dropWhile_append]
  split
  · rename_i allBlank
    -- Nothing is left of the middle, so nothing stands before the padding at the end.
    rw [List.dropWhile_eq_nil_iff.mpr backBlank, List.isEmpty_iff.mp allBlank]
  · exact dropEndWhile_append backBlank

theorem trimmed_eq_of_bare (bare : Bare characters) : trimmed characters = characters := by
  have head : characters.dropWhile isBlank = characters := by
    cases characters with
    | nil => rfl
    | cons first rest =>
        have kept : isBlank first = false := bare.head (List.cons_ne_nil first rest)
        exact List.dropWhile_cons_of_neg (Bool.eq_false_iff.mp kept)
  rw [trimmed, head, dropEndWhile_eq_rdropWhile, List.rdropWhile_eq_self_iff]
  exact fun nonempty => Bool.eq_false_iff.mp (bare.last nonempty)

theorem padded_trimmed (characters : List Char) : Padded (trimmed characters) characters := by
  refine ⟨characters.takeWhile isBlank, (characters.dropWhile isBlank).rtakeWhile isBlank,
    fun _ => List.mem_takeWhile_imp, fun _ => List.mem_rtakeWhile_imp, ?_⟩
  rw [trimmed, dropEndWhile_eq_rdropWhile, List.append_assoc, List.rdropWhile_append_rtakeWhile,
    List.takeWhile_append_dropWhile]

theorem bare_trimmed (characters : List Char) : Bare (trimmed characters) := by
  constructor
  · intro nonempty
    -- The first character left is the first one after the blank characters in front.
    have left := List.rdropWhile_prefix isBlank (characters.dropWhile isBlank)
    rw [← dropEndWhile_eq_rdropWhile, ← trimmed] at left
    rw [left.head nonempty]
    exact List.head_dropWhile_not isBlank _
  · intro nonempty
    exact Bool.eq_false_iff.mpr (List.rdropWhile_last_not isBlank _ nonempty)

end Characters

/-! ## Trimming texts -/

variable {text core : String}

/-- **A text is trimmed to the one text with bare ends that it is with padding.** -/
theorem trims_iff : Trims text core ↔ trim text = core := by
  constructor
  · intro trims
    rw [trim, trimmed_eq_of_padded trims.padded, trimmed_eq_of_bare trims.bare,
      String.ofList_toList]
  · rintro rfl
    rw [trim]
    constructor
    · rw [String.toList_ofList]
      exact padded_trimmed text.toList
    · rw [String.toList_ofList]
      exact bare_trimmed text.toList

/-- What has been trimmed is not trimmed any further. -/
theorem Trims.trim_core (trims : Trims text core) : trim core = core := by
  rw [trim, trimmed_eq_of_bare trims.bare, String.ofList_toList]

theorem trim_eq_of_padded {inner outer : String} (padded : Padded inner.toList outer.toList) :
    trim outer = trim inner := by
  rw [trim, trim, trimmed_eq_of_padded padded]

/-- Nothing is left of a text just when all of it is blank. -/
theorem trim_eq_empty_iff : trim text = "" ↔ AllBlank text.toList := by
  rw [← trims_iff]
  constructor
  · rintro ⟨⟨front, back, frontBlank, backBlank, parts⟩, _⟩
    have joined : text.toList = front ++ back := by rw [parts, String.toList_empty, List.append_nil]
    rw [joined]
    exact List.forall_mem_append.mpr ⟨frontBlank, backBlank⟩
  · intro allBlank
    have parts : text.toList = text.toList ++ "".toList ++ [] := by
      rw [String.toList_empty, List.append_nil, List.append_nil]
    exact ⟨⟨text.toList, [], allBlank, List.forall_mem_nil _, parts⟩, Bare.nil⟩

end MetricEmitter.Text
