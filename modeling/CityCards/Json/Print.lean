import CityCards.Json.Value
import CityCards.Text.Quoted

/-!
# Writing JSON text

A value as compact JSON text: no spaces, members in their order, characters outside ASCII as they
are. Only the double quote, the backslash and the control characters are escaped.

Results:
* `escapedChars_append`: characters are escaped one by one.
-/

namespace CityCards.Json

/-- Four hexadecimal digits. -/
def hex4 (n : Nat) : List Char :=
  let ds := Nat.toDigits 16 n
  List.replicate (4 - ds.length) '0' ++ ds

/-- One character inside a JSON string. -/
def escapedChar (c : Char) : List Char :=
  if c = Text.doubleQuote || c = Text.backslash then [Text.backslash, c]
  else if c = '\n' then [Text.backslash, 'n']
  else if c = '\r' then [Text.backslash, 'r']
  else if c = '\t' then [Text.backslash, 't']
  else if c.toNat = 8 then [Text.backslash, 'b']
  else if c.toNat = 12 then [Text.backslash, 'f']
  else if c.toNat < 0x20 then [Text.backslash, 'u'] ++ hex4 c.toNat
  else [c]

/-- The characters of a text inside a JSON string. -/
def escapedChars (s : List Char) : List Char := s.flatMap escapedChar

/-- A JSON string. -/
def stringText (s : String) : String :=
  String.ofList (Text.doubleQuote :: escapedChars s.toList ++ [Text.doubleQuote])

/-- Digits as characters. -/
def digitText (ds : List Nat) : String := String.ofList (ds.map Nat.digitChar)

/-- A numeral with a point or an exponent, so that it is never taken for an integer. -/
def numeralText (x : Numeral) : String :=
  (if x.negative then "-" else "") ++ digitText x.whole ++
  (if x.fraction.isEmpty then "" else "." ++ digitText x.fraction) ++
  (if x.exponent = 0 && !x.fraction.isEmpty then "" else "e" ++ toString x.exponent)

mutual

/-- A value as compact text. -/
def text : Json → String
  | .null => "null"
  | .bool true => "true"
  | .bool false => "false"
  | .int n => toString n
  | .decimal x => numeralText x
  | .str s => stringText s
  | .arr [] => "[]"
  | .arr (j :: rest) => "[" ++ j.text ++ itemsText rest ++ "]"
  | .obj [] => "\x7b\x7d"
  | .obj ((k, v) :: rest) =>
    "\x7b" ++ stringText k ++ ":" ++ v.text ++ membersText rest ++ "\x7d"

/-- The items after the first. -/
def itemsText : List Json → String
  | [] => ""
  | j :: rest => "," ++ j.text ++ itemsText rest

/-- The members after the first. -/
def membersText : List (String × Json) → String
  | [] => ""
  | (k, v) :: rest => "," ++ stringText k ++ ":" ++ v.text ++ membersText rest

end

theorem escapedChars_append (s t : List Char) :
    escapedChars (s ++ t) = escapedChars s ++ escapedChars t := by
  simp [escapedChars]

end CityCards.Json
