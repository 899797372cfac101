import CityCards.Text.Unprinted

/-!
# Quoted text

A text as it stands in a message: between double quotes, on one line, with every character that
could be misread written as an escape.

Results:
* `quotedChars_append`: characters are quoted one by one.
-/

namespace CityCards.Text

/-- The double quote. -/
def doubleQuote : Char := '\x22'

/-- The backslash. -/
def backslash : Char := '\x5c'

/-- The digits of `n` to base sixteen, in lower case and without padding. -/
def hexDigits (n : Nat) : List Char := Nat.toDigits 16 n

/-- One character of a quoted text. -/
def quotedChar (c : Char) : List Char :=
  if c = doubleQuote || c = backslash then [backslash, c]
  else if c = '\n' then [backslash, 'n']
  else if c = '\r' then [backslash, 'r']
  else if c = '\t' then [backslash, 't']
  else if c.toNat = 0 then [backslash, '0']
  else if isUnprinted c then [backslash, 'u', '\x7b'] ++ hexDigits c.toNat ++ ['\x7d']
  else [c]

/-- The characters of a quoted text, without the quotes around them. -/
def quotedChars (s : List Char) : List Char := s.flatMap quotedChar

/-- The text between double quotes. -/
def quoted (s : String) : String :=
  String.ofList (doubleQuote :: quotedChars s.toList ++ [doubleQuote])

theorem quotedChars_append (s t : List Char) :
    quotedChars (s ++ t) = quotedChars s ++ quotedChars t := by
  simp [quotedChars]

end CityCards.Text
