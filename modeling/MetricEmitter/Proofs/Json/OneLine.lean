import Mathlib.Tactic.SplitIfs
import MetricEmitter.Json.Printer

/-!
# Data is written on one line

No text of data holds a control character, and so none holds a line break
(`Json.unbroken_render`). Texts that come from outside enter it in two places, as
values and as the names of members, and both are quoted. Inside quotes a control
character is written by other characters (`Json.space_le_of_mem_escaped`).
Everything else that is written is a number or punctuation.

The proof follows the data: what holds of the parts of a list or of an object
holds of the whole.
-/

set_option autoImplicit false

namespace MetricEmitter

/-- A text without control characters. -/
def Text.Unbroken (text : String) : Prop :=
  ∀ character ∈ text.toList, ' ' ≤ character

instance (text : String) : Decidable (Text.Unbroken text) :=
  List.decidableBAll (' ' ≤ ·) text.toList

namespace Text

@[simp] theorem unbroken_ofList {characters : List Char} :
    Unbroken (String.ofList characters) ↔ ∀ character ∈ characters, ' ' ≤ character := by
  rw [Unbroken, String.toList_ofList]

@[simp] theorem unbroken_append {first second : String} :
    Unbroken (first ++ second) ↔ Unbroken first ∧ Unbroken second := by
  rw [Unbroken, String.toList_append, List.forall_mem_append]
  rfl

theorem Unbroken.newline_not_mem {text : String} (unbroken : Unbroken text) :
    '\n' ∉ text.toList :=
  fun member => absurd (unbroken '\n' member) (by decide)

theorem space_le_of_mem_toDigits {number : Nat} {digit : Char}
    (member : digit ∈ Nat.toDigits 10 number) : ' ' ≤ digit := by
  have isDigit := Nat.isDigit_of_mem_toDigits (by decide) (by decide) member
  exact Char.le_trans (by decide : ' ' ≤ '0') (Char.isDigit_iff_toNat.mp isDigit).1

theorem space_le_of_mem_zeros {count : Nat} {digit : Char}
    (member : digit ∈ List.replicate count '0') : ' ' ≤ digit := by
  rw [List.eq_of_mem_replicate member]
  decide

theorem unbroken_toDigits (number : Nat) : Unbroken (String.ofList (Nat.toDigits 10 number)) :=
  unbroken_ofList.mpr fun _ member => space_le_of_mem_toDigits member

end Text

open Text (Unbroken)

/-! ## Numbers -/

theorem Text.unbroken_toString (value : Int) : Unbroken (toString value) := by
  have unbroken (number : Nat) : Unbroken number.repr := by
    rw [Nat.repr_eq_ofList_toDigits]
    exact Text.unbroken_toDigits number
  rw [Int.toString_eq_repr]
  cases value with
  | ofNat number => exact unbroken number
  | negSucc number =>
      rw [Int.repr, Text.unbroken_append]
      exact ⟨by decide, unbroken _⟩

namespace Layout

variable {digits : List Char}

theorem unbroken_take (printable : ∀ digit ∈ digits, ' ' ≤ digit) (count : Nat) :
    Unbroken (String.ofList (digits.take count)) :=
  Text.unbroken_ofList.mpr fun digit member => printable digit (List.mem_of_mem_take member)

theorem unbroken_drop (printable : ∀ digit ∈ digits, ' ' ≤ digit) (count : Nat) :
    Unbroken (String.ofList (digits.drop count)) :=
  Text.unbroken_ofList.mpr fun digit member => printable digit (List.mem_of_mem_drop member)

theorem unbroken_pointed {layout : Layout} (marked : Unbroken layout.wholeMark)
    (printable : ∀ digit ∈ digits, ' ' ≤ digit) (leading : Int) :
    Unbroken (layout.pointed digits leading) := by
  have zeros (count : Nat) : ∀ digit ∈ List.replicate count '0', ' ' ≤ digit :=
    fun _ member => Text.space_le_of_mem_zeros member
  unfold pointed
  dsimp only
  split_ifs
  · exact Text.unbroken_append.mpr ⟨by decide,
      Text.unbroken_ofList.mpr (List.forall_mem_append.mpr ⟨zeros _, printable⟩)⟩
  · exact Text.unbroken_append.mpr
      ⟨Text.unbroken_ofList.mpr (List.forall_mem_append.mpr ⟨printable, zeros _⟩), marked⟩
  · simp only [Text.unbroken_append]
    exact ⟨⟨unbroken_take printable _, by decide⟩, unbroken_drop printable _⟩

theorem unbroken_scientific (printable : ∀ digit ∈ digits, ' ' ≤ digit) (leading : Int) :
    Unbroken (scientific digits leading) := by
  have fraction : Unbroken
      (if (digits.drop 1).isEmpty then "" else "." ++ String.ofList (digits.drop 1)) := by
    split_ifs
    · decide
    · exact Text.unbroken_append.mpr ⟨by decide, unbroken_drop printable 1⟩
  have sign : Unbroken (if leading < 0 then "e-" else "e+") := by
    split_ifs <;> decide
  simp only [scientific, Text.unbroken_append]
  exact ⟨⟨⟨unbroken_take printable 1, fraction⟩, sign⟩, Text.unbroken_toDigits _⟩

theorem unbroken_text {layout : Layout} (marked : Unbroken layout.wholeMark) (value : Float) :
    Unbroken (layout.text value) := by
  have digits (decimal : Decimal) : ∀ digit ∈ decimal.digits, ' ' ≤ digit :=
    fun _ member => Text.space_le_of_mem_toDigits member
  unfold text magnitude
  rw [Text.unbroken_append]
  constructor
  · split_ifs <;> decide
  · dsimp only
    split_ifs
    · exact Text.unbroken_append.mpr ⟨by decide, marked⟩
    · exact unbroken_pointed marked (digits _) _
    · exact unbroken_scientific (digits _) _

end Layout

/-! ## Texts and data -/

namespace Json

theorem space_le_of_mem_escape {code character : Char} (printable : ' ' ≤ code)
    (member : character ∈ ['\\', code]) : ' ' ≤ character := by
  rcases List.mem_cons.mp member with backslash | named
  · rw [backslash]
    decide
  · rw [List.mem_singleton.mp named]
    exact printable

theorem space_le_of_mem_controlCode {control character : Char} (isControl : control < ' ')
    (member : character ∈ controlCode control) : ' ' ≤ character := by
  have digits : ∀ number < 32, Unbroken (String.ofList (Nat.toDigits 16 number)) := by decide
  unfold controlCode at member
  dsimp only at member
  rw [List.append_assoc, List.mem_append, List.mem_append] at member
  rcases member with escape | zero | digit
  · exact space_le_of_mem_escape (by decide) escape
  · exact Text.space_le_of_mem_zeros zero
  · exact Text.unbroken_ofList.mp (digits control.toNat isControl) character digit

/-- **Inside quotes every character is written without control characters.** -/
theorem space_le_of_mem_escaped {original character : Char}
    (member : character ∈ escaped original) : ' ' ≤ character := by
  unfold escaped at member
  split_ifs at member
  -- The escapes with a letter or sign of their own, then the other control characters.
  any_goals exact space_le_of_mem_escape (by decide) member
  · rename_i isControl
    exact space_le_of_mem_controlCode isControl member
  · rename_i printable
    rw [List.mem_singleton.mp member]
    exact Char.not_lt.mp printable

theorem unbroken_quote (text : String) : Unbroken (quote text) := by
  unfold quote
  rw [Text.unbroken_ofList]
  intro character member
  rw [List.cons_append, List.mem_cons, List.mem_append, List.mem_flatMap] at member
  rcases member with opening | ⟨original, _, member⟩ | closing
  · rw [opening]
    decide
  · exact space_le_of_mem_escaped member
  · rw [List.mem_singleton.mp closing]
    decide

mutual

/-- **The text of data holds no control character.** -/
theorem unbroken_render : ∀ value : Json, Unbroken value.render
  | .null => by decide
  | .bool true => by decide
  | .bool false => by decide
  | .integer value => Text.unbroken_toString value
  | .float value => Layout.unbroken_text (by decide) value
  | .text value => unbroken_quote value
  | .array items => by
      simp only [render, Text.unbroken_append]
      exact ⟨⟨by decide, unbroken_renderItems items⟩, by decide⟩
  | .object members => by
      simp only [render, Text.unbroken_append]
      exact ⟨⟨by decide, unbroken_renderMembers members⟩, by decide⟩

theorem unbroken_renderItems : ∀ items : List Json, Unbroken (renderItems items)
  | [] => by decide
  | [item] => unbroken_render item
  | item :: next :: rest => by
      change Unbroken (item.render ++ "," ++ renderItems (next :: rest))
      simp only [Text.unbroken_append]
      exact ⟨⟨unbroken_render item, by decide⟩, unbroken_renderItems (next :: rest)⟩

theorem unbroken_renderMembers :
    ∀ members : List (String × Json), Unbroken (renderMembers members)
  | [] => by decide
  | [(name, value)] => by
      simp only [renderMembers, Text.unbroken_append]
      exact ⟨⟨unbroken_quote name, by decide⟩, unbroken_render value⟩
  | (name, value) :: next :: rest => by
      change Unbroken (quote name ++ ":" ++ value.render ++ "," ++ renderMembers (next :: rest))
      simp only [Text.unbroken_append]
      exact ⟨⟨⟨⟨unbroken_quote name, by decide⟩, unbroken_render value⟩, by decide⟩,
        unbroken_renderMembers (next :: rest)⟩

end

end Json

end MetricEmitter
