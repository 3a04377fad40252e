import Mathlib.Tactic.SplitIfs
import MetricEmitter.Delivery.ByteWriter
import MetricEmitter.Table

/-!
# The order of names and the order of bytes

A table lists its names in the order of their characters. Texts are compared
here by the bytes they are written in, which is the order a reader of a document
sees. Both orders are the same (`Text.lt_iff_bytesOf_lt`): of two characters the
greater one is written in greater bytes, and so that no difference later in the
text outweighs it (`Text.encoding_lt`).
-/

set_option autoImplicit false

namespace MetricEmitter.Text

open ByteWriter (bytesOf)

/-- **A smaller character is written in smaller bytes**, whatever follows it. -/
theorem encoding_lt {first second : Char} (below : first < second) (rest others : List UInt8) :
    String.utf8EncodeChar first ++ rest < String.utf8EncodeChar second ++ others := by
  have order : first.val.toNat < second.val.toNat := below
  have bound : second.val.toNat < 1114112 := by
    have valid := second.valid
    unfold UInt32.isValidChar Nat.isValidChar at valid
    omega
  unfold String.utf8EncodeChar
  generalize first.val.toNat = low at order
  generalize second.val.toNat = high at order bound
  -- Each byte holds six more bits of the character, so that the digits are those to the base 64.
  have digits : ∀ code : Nat,
      code / 4096 = code / 64 / 64 ∧ code / 262144 = code / 64 / 64 / 64 := by
    intro code
    omega
  simp only [(digits low).1, (digits low).2, (digits high).1, (digits high).2]
  -- Either the first bytes differ, as they also tell how many follow, or some later byte does.
  split_ifs <;>
    simp only [List.cons_append, List.nil_append, List.cons_lt_cons_iff, UInt8.lt_iff_toNat_lt,
      ← UInt8.toNat_inj, UInt8.toNat_ofNat'] <;>
    omega

theorem flatMap_encoding_lt {first second : List Char} (below : first < second) :
    first.flatMap String.utf8EncodeChar < second.flatMap String.utf8EncodeChar := by
  induction first generalizing second with
  | nil =>
      cases second with
      | nil => exact absurd below (List.lt_irrefl [])
      | cons head rest =>
          rw [List.flatMap_nil, List.flatMap_cons]
          cases encoded : String.utf8EncodeChar head with
          | nil => exact absurd encoded String.utf8EncodeChar_ne_nil
          | cons byte bytes => exact List.nil_lt_cons byte _
  | cons head rest ih =>
      cases second with
      | nil => exact absurd below (List.not_lt_nil _)
      | cons other others =>
          rw [List.flatMap_cons, List.flatMap_cons]
          rcases List.cons_lt_cons_iff.mp below with smaller | ⟨same, later⟩
          · exact encoding_lt smaller _ _
          · subst same
            exact List.append_left_lt (ih later)

/-- **Texts are ordered as the bytes they are written in.** -/
theorem lt_iff_bytesOf_lt {first second : String} :
    first < second ↔ bytesOf first < bytesOf second := by
  have forward : ∀ {low high : String}, low < high → bytesOf low < bytesOf high :=
    fun below => flatMap_encoding_lt (String.lt_iff.mp below)
  refine ⟨forward, ?_⟩
  intro below
  by_cases same : first = second
  · exact absurd below (same ▸ List.lt_irrefl _)
  · by_cases order : first < second
    · exact order
    · exact absurd (forward (Table.lt_of_not_lt_of_ne order same)) (List.lt_asymm below)

/-- A text can be told from its bytes. -/
theorem eq_of_bytesOf_eq {first second : String} (same : bytesOf first = bytesOf second) :
    first = second := by
  have incomparable {low high : String} (alike : bytesOf low = bytesOf high) : ¬low < high := by
    intro below
    rw [lt_iff_bytesOf_lt, alike] at below
    exact List.lt_irrefl _ below
  exact String.le_antisymm (String.not_lt.mp (incomparable same.symm))
    (String.not_lt.mp (incomparable same))

/-- Names in the order of the bytes they are written in, each of them once. -/
def InByteOrder (names : List String) : Prop :=
  names.Pairwise fun earlier later => bytesOf earlier < bytesOf later

end MetricEmitter.Text

namespace MetricEmitter.Table

/-- **A table lists its names in the order of their bytes.** -/
theorem inByteOrder_names {α : Type} (table : Table α) : Text.InByteOrder table.names :=
  (List.pairwise_map.mpr table.ascending).imp Text.lt_iff_bytesOf_lt.mp

end MetricEmitter.Table
