/-!
# Blank characters

The characters with the property `White_Space`, and text without those at its
two ends. Trimming is stated on lists of characters, where taking away a prefix
and a suffix are the same operation read from either end.
-/

set_option autoImplicit false

namespace MetricEmitter.Text

/-- First and last code point of each run of characters with the property `White_Space`. -/
def blankRanges : List (Nat × Nat) :=
  [(0x9, 0xd), (0x20, 0x20), (0x85, 0x85), (0xa0, 0xa0), (0x1680, 0x1680), (0x2000, 0x200a),
    (0x2028, 0x2029), (0x202f, 0x202f), (0x205f, 0x205f), (0x3000, 0x3000)]

/-- A character with the property `White_Space`. -/
def isBlank (character : Char) : Bool :=
  blankRanges.any fun range => range.1 ≤ character.toNat && character.toNat ≤ range.2

/-- The list without the members at its end that satisfy a condition. -/
def dropEndWhile {α : Type} (condition : α → Bool) (items : List α) : List α :=
  (items.reverse.dropWhile condition).reverse

/-- The characters without the blank ones at either end. -/
def trimmed (characters : List Char) : List Char :=
  dropEndWhile isBlank (characters.dropWhile isBlank)

/-- The text without the blank characters at either end. -/
def trim (text : String) : String :=
  String.ofList (trimmed text.toList)

end MetricEmitter.Text
