import MetricEmitter.Text.Unprintable

/-!
# Quoted text

How a text is shown inside a message: in double quotes, with a backslash before
the characters that would end or confuse it, and with the number of every
character that would not be seen.
-/

set_option autoImplicit false

namespace MetricEmitter.Text

/-- The number of a character in lower case hexadecimal digits, without leading zeros. -/
def byNumber (character : Char) : List Char :=
  ['\\', 'u', '\x7b'] ++ Nat.toDigits 16 character.toNat ++ ['\x7d']

/-- How one character is shown between quotes. -/
def shown (character : Char) : List Char :=
  if character = '"' then ['\\', '"']
  else if character = '\\' then ['\\', '\\']
  else if character = '\n' then ['\\', 'n']
  else if character = '\r' then ['\\', 'r']
  else if character = '\t' then ['\\', 't']
  else if character = '\x00' then ['\\', '0']
  else if isUnprintable character then byNumber character
  else [character]

/-- The text in double quotes. -/
def quoted (text : String) : String :=
  String.ofList ('"' :: text.toList.flatMap shown ++ ['"'])

/-- The quoted texts in brackets, separated by commas. -/
def quotedList (texts : List String) : String :=
  "[" ++ ", ".intercalate (texts.map quoted) ++ "]"

end MetricEmitter.Text
