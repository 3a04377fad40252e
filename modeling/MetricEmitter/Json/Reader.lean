import MetricEmitter.Decimal.Nearest
import MetricEmitter.Json

/-!
# Reading data

The reader takes the JSON grammar as it is: no comments, no trailing commas, no
control characters inside strings, no half of a surrogate pair, and not too deep
a nesting. A number without point and exponent that fits a word of 64 bits, with
or without a sign, is a whole number; every other number is the floating point
number nearest to it, and a number beyond their range is refused. Minus zero is
not a whole number. Of several members of one name the last one counts.
-/

set_option autoImplicit false

namespace MetricEmitter.Json

/-- What is left of a text without the white space in front. -/
def skipSpace (rest : List Char) : List Char :=
  rest.dropWhile fun character => [' ', '\n', '\t', '\r'].contains character

/-! ## Strings -/

def hexDigit? (character : Char) : Option Nat :=
  if '0' ≤ character ∧ character ≤ '9' then some (character.toNat - '0'.toNat)
  else if 'a' ≤ character ∧ character ≤ 'f' then some (character.toNat - 'a'.toNat + 10)
  else if 'A' ≤ character ∧ character ≤ 'F' then some (character.toNat - 'A'.toNat + 10)
  else none

/-- The value of four hexadecimal digits. -/
def hexCode? (digits : List Char) : Option Nat :=
  digits.foldlM (fun value digit => (hexDigit? digit).map (value * 16 + ·)) 0

/-- What a letter after a backslash stands for. -/
def unescaped? : Char → Option Char
  | '"' => some '"'
  | '\\' => some '\\'
  | '/' => some '/'
  | 'b' => some '\x08'
  | 'f' => some '\x0c'
  | 'n' => some '\n'
  | 'r' => some '\r'
  | 't' => some '\t'
  | _ => none

/-- Whether a code is the first half of a surrogate pair. -/
def isFirstHalf (code : Nat) : Bool := 0xd800 ≤ code && code < 0xdc00

/-- Whether a code is the second half of a surrogate pair. -/
def isSecondHalf (code : Nat) : Bool := 0xdc00 ≤ code && code < 0xe000

/-- The character of a surrogate pair. -/
def joined (first second : Nat) : Char :=
  Char.ofNat (0x10000 + (first - 0xd800) * 0x400 + (second - 0xdc00))

/-- Reads the rest of a string, after the characters seen so far in reverse. -/
def readString (seen : List Char) : List Char → Option (String × List Char)
  | [] => none
  | '"' :: rest => some (String.ofList seen.reverse, rest)
  | '\\' :: 'u' :: first :: second :: third :: fourth :: rest =>
      match hexCode? [first, second, third, fourth] with
      | none => none
      | some code =>
          if isFirstHalf code then
            match rest with
            | '\\' :: 'u' :: fifth :: sixth :: seventh :: eighth :: more =>
                match hexCode? [fifth, sixth, seventh, eighth] with
                | none => none
                | some low =>
                    if isSecondHalf low then readString (joined code low :: seen) more else none
            | _ => none
          else if isSecondHalf code then none
          else readString (Char.ofNat code :: seen) rest
  | '\\' :: mark :: rest =>
      match unescaped? mark with
      | none => none
      | some character => readString (character :: seen) rest
  | character :: rest =>
      if character < ' ' then none else readString (character :: seen) rest

/-! ## Numbers -/

def digitsValue (digits : List Char) : Nat :=
  digits.foldl (fun value digit => value * 10 + (digit.toNat - '0'.toNat)) 0

/-- The sign in front, if it is a minus. -/
def readMinus : List Char → Bool × List Char
  | '-' :: rest => (true, rest)
  | rest => (false, rest)

/-- The digits in front, of which there must be one. -/
def readDigits (rest : List Char) : Option (List Char × List Char) :=
  match rest.takeWhile Char.isDigit with
  | [] => none
  | digits => some (digits, rest.dropWhile Char.isDigit)

/-- The digits behind a point, if there is a point. -/
def readFraction : List Char → Option (Option (List Char) × List Char)
  | '.' :: rest => (readDigits rest).map fun read => (some read.1, read.2)
  | rest => some (none, rest)

/-- The exponent, if there is one. -/
def readExponent : List Char → Option (Option Int × List Char)
  | [] => some (none, [])
  | mark :: rest =>
      if mark = 'e' ∨ mark = 'E' then
        let signed := match rest with
          | '+' :: unsigned => (false, unsigned)
          | other => readMinus other
        (readDigits signed.2).map fun read =>
          let size : Int := digitsValue read.1
          (some (if signed.1 then -size else size), read.2)
      else some (none, mark :: rest)

/-- A whole number as such if it fits a word of 64 bits, with or without a sign. -/
def whole? (negative : Bool) (size : Nat) : Option Json :=
  if negative then
    if 0 < size ∧ size ≤ Nat.pow 2 63 then some (.integer (-size)) else none
  else if size < Nat.pow 2 64 then some (.integer size)
  else none

/-- A number as the nearest floating point number, if that is finite. -/
def approximate? (negative : Bool) (coefficient : Nat) (exponent : Int) : Option Json :=
  let value := Decimal.nearest negative coefficient exponent
  if value.isFinite then some (.float value) else none

def readNumber (rest : List Char) : Option (Json × List Char) := do
  let (negative, rest) := readMinus rest
  let (digits, rest) ← readDigits rest
  if 1 < digits.length ∧ digits.head? = some '0' then none
  let (fraction, rest) ← readFraction rest
  let (exponent, rest) ← readExponent rest
  let places := fraction.getD []
  let approximated := approximate? negative (digitsValue (digits ++ places))
    (exponent.getD 0 - places.length)
  let value ←
    if fraction.isNone ∧ exponent.isNone then
      (whole? negative (digitsValue digits)).orElse fun _ => approximated
    else approximated
  return (value, rest)

/-! ## Values -/

/-- How deep arrays and objects may be nested. -/
def deepest : Nat := 127

mutual

/-- Reads a value, in at most `fuel` steps and at most `depth` levels deep. -/
def readValue (fuel depth : Nat) (rest : List Char) : Option (Json × List Char) :=
  match fuel with
  | 0 => none
  | fuel + 1 =>
      match skipSpace rest with
      | 'n' :: 'u' :: 'l' :: 'l' :: rest => some (.null, rest)
      | 't' :: 'r' :: 'u' :: 'e' :: rest => some (.bool true, rest)
      | 'f' :: 'a' :: 'l' :: 's' :: 'e' :: rest => some (.bool false, rest)
      | '"' :: rest => (readString [] rest).map fun read => (.text read.1, read.2)
      | '[' :: rest =>
          match depth, skipSpace rest with
          | 0, _ => none
          | _, ']' :: rest => some (.array [], rest)
          | depth + 1, rest => readItems fuel depth [] rest
      | '\x7b' :: rest =>
          match depth, skipSpace rest with
          | 0, _ => none
          | _, '\x7d' :: rest => some (.object [], rest)
          | depth + 1, rest => readMembers fuel depth [] rest
      | rest => readNumber rest

/-- Reads the rest of an array, after the items seen so far in reverse. -/
def readItems (fuel depth : Nat) (seen : List Json) (rest : List Char) :
    Option (Json × List Char) :=
  match fuel with
  | 0 => none
  | fuel + 1 =>
      match readValue fuel depth rest with
      | none => none
      | some (item, rest) =>
          match skipSpace rest with
          | ',' :: rest => readItems fuel depth (item :: seen) rest
          | ']' :: rest => some (.array (item :: seen).reverse, rest)
          | _ => none

/-- Reads the rest of an object, after the members seen so far in reverse. -/
def readMembers (fuel depth : Nat) (seen : List (String × Json)) (rest : List Char) :
    Option (Json × List Char) :=
  match fuel with
  | 0 => none
  | fuel + 1 =>
      match skipSpace rest with
      | '"' :: rest =>
          match readString [] rest with
          | none => none
          | some (name, rest) =>
              match skipSpace rest with
              | ':' :: rest =>
                  match readValue fuel depth rest with
                  | none => none
                  | some (value, rest) =>
                      match skipSpace rest with
                      | ',' :: rest => readMembers fuel depth ((name, value) :: seen) rest
                      | '\x7d' :: rest => some (.ofMembers ((name, value) :: seen).reverse, rest)
                      | _ => none
              | _ => none
      | _ => none

end

/-- The data a text stands for. Each step of the reader takes a character, but for one step into
each value, so that twice as many steps as there are characters suffice. -/
def parse? (text : String) : Option Json :=
  let characters := text.toList
  match readValue (2 * characters.length + 2) deepest characters with
  | some (value, rest) => if (skipSpace rest).isEmpty then some value else none
  | none => none

end MetricEmitter.Json
