/-!
# Blank characters and trimming

The characters with the Unicode property `White_Space`, and the text that is left when they are
taken off its ends.

Results:
* `trimStart_eq_nil_iff`: nothing is left exactly when every character is blank.
* `trimEnd_append_blank`: a blank character at the end does not matter to `trimEnd`.
-/

namespace CityCards.Text

/-- A character with the property `White_Space`. -/
def isBlank (c : Char) : Bool :=
  (0x09 ≤ c.toNat && c.toNat ≤ 0x0d) || c.toNat == 0x20 || c.toNat == 0x85 || c.toNat == 0xa0 ||
  c.toNat == 0x1680 || (0x2000 ≤ c.toNat && c.toNat ≤ 0x200a) || c.toNat == 0x2028 ||
  c.toNat == 0x2029 || c.toNat == 0x202f || c.toNat == 0x205f || c.toNat == 0x3000

/-- The text without its leading blank characters. -/
def trimStart (s : List Char) : List Char := s.dropWhile isBlank

/-- The text without its trailing blank characters. -/
def trimEnd (s : List Char) : List Char := (s.reverse.dropWhile isBlank).reverse

/-- The text without the blank characters at either end. -/
def trim (s : List Char) : List Char := trimEnd (trimStart s)

/-- A text that holds nothing but blank characters. -/
def isBlankText (s : String) : Bool := s.toList.all isBlank

theorem trimStart_eq_nil_iff {s : List Char} : trimStart s = [] ↔ ∀ c ∈ s, isBlank c = true := by
  unfold trimStart
  induction s with
  | nil => simp
  | cons c r ih => by_cases h : isBlank c = true <;> simp [h, ih]

theorem trimEnd_append_blank (s : List Char) {c : Char} (h : isBlank c = true) :
    trimEnd (s ++ [c]) = trimEnd s := by
  simp [trimEnd, h]

end CityCards.Text
