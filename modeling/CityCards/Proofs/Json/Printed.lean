import CityCards.Json.Outline
import CityCards.Json.Print

/-!
# Reading printed text

Numbers and names are read back from the text that they are printed as, whatever comes after them:
a number as its digits, of which the first is not zero if there is a second, and a name as itself if
no character of it had to be escaped. A record whose fields are numbers is then read member by
member.

Main definitions:
* `decimalDigits`: the digits that a number is printed with.
* `Token.EndsNumeral`: a text that does not go on with a numeral.
* `Token.IsPlain`: a character that stands for itself in a string.
* `memberText`, `Token.ofMember`: a member whose value is a number, as text and as tokens.

Results:
* `ofDecimalDigits_decimalDigits`: the value of the digits of a number is the number.
* `Token.scanFrom_toDigits`: a printed number is scanned as a whole numeral.
* `Token.scanFrom_name`: a name is scanned as a string.
* `Outline.readNamed_member`: one member of a record is read, and then the others.
-/

namespace CityCards

/-! ## Digits -/

/-- The digits that a number is printed with, the most significant first. -/
def decimalDigits (n : Nat) : List Nat := (Nat.toDigits 10 n).map fun c => c.toNat - '0'.toNat

theorem ofDecimalDigits_decimalDigits (n : Nat) : ofDecimalDigits (decimalDigits n) = n := by
  rw [ofDecimalDigits, decimalDigits, List.foldl_map]
  have hvalue := Nat.ofDigitChars_ten_toDigits (n := n)
  rwa [Nat.ofDigitChars_eq_foldl] at hvalue

theorem decimalDigits_of_lt {n : Nat} (h : n < 10) : decimalDigits n = [n] := by
  rw [decimalDigits, Nat.toDigits_of_lt_base h, List.map_singleton]
  exact congrArg (fun d => [d]) (Nat.toNat_digitChar_sub_48_of_lt_ten h)

theorem decimalDigits_of_le {n : Nat} (h : 10 ≤ n) :
    decimalDigits n = decimalDigits (n / 10) ++ [n % 10] := by
  rw [decimalDigits, Nat.toDigits_of_base_le (by decide) h, List.map_append, List.map_singleton]
  have hlast : n % 10 < 10 := Nat.mod_lt n (by decide)
  exact congrArg (fun d => decimalDigits (n / 10) ++ [d])
    (Nat.toNat_digitChar_sub_48_of_lt_ten hlast)

theorem decimalDigits_ne_nil (n : Nat) : decimalDigits n ≠ [] := by
  simp [decimalDigits, Nat.toDigits_ne_nil]

/-- Only zero is printed with a leading zero. -/
theorem head?_decimalDigits {n : Nat} (h : 0 < n) : (decimalDigits n).head? ≠ some 0 := by
  induction n using Nat.strongRecOn with
  | ind n ih =>
    by_cases hn : n < 10
    · rw [decimalDigits_of_lt hn, List.head?_singleton]
      intro heq
      cases heq
      exact Nat.lt_irrefl 0 h
    · have hfirst := ih (n / 10) (by omega) (by omega)
      obtain ⟨d, ds, hds⟩ := List.exists_cons_of_ne_nil (decimalDigits_ne_nil (n / 10))
      rw [hds, List.head?_cons] at hfirst
      rwa [decimalDigits_of_le (by omega), hds, List.cons_append, List.head?_cons]

/-- A zero is not followed by other digits. -/
theorem decimalDigits_ne_zero_cons (n d : Nat) (ds : List Nat) :
    decimalDigits n ≠ 0 :: d :: ds := by
  intro heq
  rcases Nat.eq_zero_or_pos n with rfl | hn
  · rw [decimalDigits_of_lt (by decide)] at heq
    cases heq
  · exact head?_decimalDigits hn (by rw [heq, List.head?_cons])

namespace Json.Token

/-! ## Numbers -/

theorem digit?_of_isDigit {c : Char} (h : c.isDigit = true) :
    digit? c = some (c.toNat - '0'.toNat) := by
  rw [Char.isDigit, Bool.and_eq_true] at h
  rw [digit?, if_pos (by simpa [Char.le_def] using h)]

/-- What comes after a numeral: a text that does not go on with one. -/
def EndsNumeral : List Char → Prop
  | [] => True
  | c :: _ => digit? c = none ∧ c ≠ '.' ∧ c ≠ 'e' ∧ c ≠ 'E'

variable {rest : List Char}

theorem digits_eq_nil (h : EndsNumeral rest) : digits rest = [] := by
  cases rest with
  | nil => rfl
  | cons c r => rw [digits, h.1]

theorem digits_append (h : EndsNumeral rest) {cs : List Char} (hcs : ∀ c ∈ cs, c.isDigit = true) :
    digits (cs ++ rest) = cs.map fun c => c.toNat - '0'.toNat := by
  induction cs with
  | nil => exact digits_eq_nil h
  | cons c r ih =>
    obtain ⟨hc, hr⟩ := List.forall_mem_cons.mp hcs
    rw [List.cons_append, digits, digit?_of_isDigit hc, List.map_cons]
    exact congrArg _ (ih hr)

theorem isDigit_toDigits (n : Nat) : ∀ c ∈ Nat.toDigits 10 n, c.isDigit = true :=
  fun _ hc => Nat.isDigit_of_mem_toDigits (by decide) (by decide) hc

theorem digits_toDigits (h : EndsNumeral rest) (n : Nat) :
    digits (Nat.toDigits 10 n ++ rest) = decimalDigits n := digits_append h (isDigit_toDigits n)

theorem drop_toDigits (n : Nat) :
    (Nat.toDigits 10 n ++ rest).drop (decimalDigits n).length = rest := by
  rw [decimalDigits, List.length_map, List.drop_left]

theorem afterWhole_of_endsNumeral (h : EndsNumeral rest) (negative : Bool) (whole : List Nat) :
    afterWhole negative whole rest = .whole negative whole := by
  unfold afterWhole
  split
  · exact absurd rfl h.2.1
  · exact absurd rfl h.2.2.1
  · exact absurd rfl h.2.2.2
  · rfl

theorem numeral_toDigits (h : EndsNumeral rest) (n : Nat) :
    numeral false (Nat.toDigits 10 n ++ rest) = .whole false (decimalDigits n) := by
  rw [numeral, afterDigits, digits_toDigits h, drop_toDigits]
  split
  · exact absurd ‹_› (decimalDigits_ne_nil n)
  · exact absurd ‹_› (decimalDigits_ne_zero_cons n _ _)
  · exact afterWhole_of_endsNumeral h false _

theorem numeralLength_toDigits (h : EndsNumeral rest) (n : Nat) :
    numeralLength (Nat.toDigits 10 n ++ rest) = (Nat.toDigits 10 n).length := by
  have hlength : (decimalDigits n).length = (Nat.toDigits 10 n).length := List.length_map _
  rw [numeralLength]
  simp only [digits_toDigits h, drop_toDigits]
  split
  · exact absurd rfl h.2.1
  · exact absurd rfl h.2.2.1
  · exact absurd rfl h.2.2.2
  · exact hlength

/-- A digit is none of the characters that other tokens start with. -/
theorem ne_of_isDigit {c d : Char} (hc : c.isDigit = true) (hd : d.isDigit = false) : c ≠ d := by
  rintro rfl
  rw [hc] at hd
  cases hd

theorem next_of_isDigit {c : Char} (h : c.isDigit = true) (rest : List Char) :
    next c rest = (numeral false (c :: rest), numeralLength (c :: rest) - 1) := by
  have hdigit : (digit? c).isSome = true := by rw [digit?_of_isDigit h, Option.isSome_some]
  unfold next
  repeat rw [if_neg (ne_of_isDigit h rfl)]
  rw [if_pos hdigit]

theorem isSpace_of_isDigit {c : Char} (h : c.isDigit = true) : isSpace c = false := by
  simp only [isSpace, Bool.or_eq_false_iff, decide_eq_false_iff_not]
  exact ⟨⟨⟨ne_of_isDigit h rfl, ne_of_isDigit h rfl⟩, ne_of_isDigit h rfl⟩, ne_of_isDigit h rfl⟩

/-- A printed number is scanned as a whole numeral. -/
theorem scanFrom_toDigits (h : EndsNumeral rest) (n : Nat) :
    scanFrom 0 (Nat.toDigits 10 n ++ rest) = .whole false (decimalDigits n) :: scanFrom 0 rest := by
  have hnumeral := numeral_toDigits h n
  have hlength := numeralLength_toDigits h n
  have hdigits := isDigit_toDigits n
  generalize Nat.toDigits 10 n = cs at hnumeral hlength hdigits
  cases cs with
  | nil =>
    rw [List.nil_append, numeral, digits_eq_nil h] at hnumeral
    cases hnumeral
  | cons c r =>
    have hc := hdigits c List.mem_cons_self
    rw [List.cons_append] at hnumeral hlength ⊢
    rw [scanFrom, isSpace_of_isDigit hc, if_neg Bool.false_ne_true, next_of_isDigit hc, hnumeral,
      hlength]
    exact congrArg _ (scanFrom_skip r rest)

/-! ## Names -/

/-- The character stands for itself in a string. -/
def IsPlain (c : Char) : Prop := c ≠ '\x22' ∧ c ≠ '\x5c' ∧ 0x20 ≤ c.toNat

instance (c : Char) : Decidable (IsPlain c) := inferInstanceAs (Decidable (_ ∧ _ ∧ _))

theorem string_plain {cs : List Char} (h : ∀ c ∈ cs, IsPlain c) (done : List Char) (length : Nat)
    (rest : List Char) :
    string false done length (cs ++ '\x22' :: rest) =
      (.str (some (String.ofList (done.reverse ++ cs))), length + cs.length + 1) := by
  induction cs generalizing done length with
  | nil => simp [string]
  | cons c r ih =>
    obtain ⟨⟨hquote, hslash, hspace⟩, hr⟩ := List.forall_mem_cons.mp h
    rw [List.cons_append, string, if_neg hslash, if_neg (Nat.not_lt.mpr hspace), ih hr]
    · simp only [List.reverse_cons, List.append_assoc, List.singleton_append, List.length_cons]
      rw [Nat.add_assoc length 1, Nat.add_comm 1]
    · exact hquote
    · exact fun _ _ _ _ _ h => absurd h hslash
    · exact fun _ h => absurd h hslash
    · exact fun _ _ h => absurd h hslash

theorem escapedChar_plain {c : Char} (h : IsPlain c) : escapedChar c = [c] := by
  obtain ⟨hquote, hslash, hspace⟩ := h
  have hprinted {d : Char} (hd : d.toNat < 0x20) : c ≠ d := by
    rintro rfl
    exact absurd hd (Nat.not_lt.mpr hspace)
  have hescape : ¬(c = Text.doubleQuote || c = Text.backslash) = true := by
    rw [Bool.or_eq_true, decide_eq_true_eq, decide_eq_true_eq]
    exact not_or.mpr ⟨hquote, hslash⟩
  rw [escapedChar, if_neg hescape, if_neg (hprinted (by decide)), if_neg (hprinted (by decide)),
    if_neg (hprinted (by decide)), if_neg (by omega), if_neg (by omega), if_neg (by omega)]

theorem escapedChars_plain {cs : List Char} (h : ∀ c ∈ cs, IsPlain c) : escapedChars cs = cs := by
  induction cs with
  | nil => rfl
  | cons c r ih =>
    obtain ⟨hc, hr⟩ := List.forall_mem_cons.mp h
    rw [escapedChars, List.flatMap_cons, escapedChar_plain hc]
    exact congrArg (c :: ·) (ih hr)

/-- Every character of the name stands for itself. -/
def IsPlainName (name : String) : Prop := ∀ c ∈ name.toList, IsPlain c

instance (name : String) : Decidable (IsPlainName name) := List.decidableBAll IsPlain name.toList

/-- A plain name is scanned as a string. -/
theorem scanFrom_name {name : String} (h : IsPlainName name) (rest : List Char) :
    scanFrom 0 ((stringText name).toList ++ rest) = .str (some name) :: scanFrom 0 rest := by
  have hchars : (stringText name).toList ++ rest =
      '\x22' :: (name.toList ++ '\x22' :: rest) := by
    rw [stringText, escapedChars_plain h, String.toList_ofList]
    simp [Text.doubleQuote]
  have hnext : next '\x22' (name.toList ++ '\x22' :: rest) =
      (.str (some name), name.toList.length + 1) := by
    have hstring := string_plain h [] 0 rest
    rw [List.reverse_nil, List.nil_append, String.ofList_toList, Nat.zero_add] at hstring
    exact hstring
  have hskip := scanFrom_skip (name.toList ++ ['\x22']) rest
  rw [List.length_append, List.length_singleton, List.append_assoc, List.singleton_append] at hskip
  rw [hchars, scanFrom, if_neg (by decide), hnext]
  exact congrArg _ hskip

end Json.Token

/-! ## Members -/

namespace Json

/-- A member whose value is a number, as it stands in the text of an object. -/
def memberText (name : String) (n : Nat) : String := stringText name ++ ":" ++ (Json.int n).text

theorem text_int (n : Nat) : (Json.int n).text = toString n := by
  rw [Json.text]
  rfl

theorem toList_text_int (n : Nat) : (Json.int n).text.toList = Nat.toDigits 10 n := by
  rw [text_int, Nat.toString_eq_ofList_toDigits, String.toList_ofList]

/-- The tokens of such a member. -/
def Token.ofMember (name : String) (n : Nat) : List Token :=
  [.str (some name), .colon, .whole false (decimalDigits n)]

theorem Token.scanFrom_member {name : String} (hname : IsPlainName name) (n : Nat)
    {rest : List Char} (hrest : EndsNumeral rest) :
    scanFrom 0 ((memberText name n).toList ++ rest) = ofMember name n ++ scanFrom 0 rest := by
  have htext : (memberText name n).toList ++ rest =
      (stringText name).toList ++ ':' :: (Nat.toDigits 10 n ++ rest) := by
    simp [memberText, toList_text_int]
  rw [htext, scanFrom_name hname]
  change _ :: _ :: scanFrom 0 (Nat.toDigits 10 n ++ rest) = _
  rw [scanFrom_toDigits hrest]
  rfl

/-! ## Records -/

theorem wholeInt?_decimalDigits {n : Nat} (h : n < 2 ^ 64) :
    wholeInt? false (decimalDigits n) = some (Int.ofNat n) := by
  rw [wholeInt?, ofDecimalDigits_decimalDigits, if_neg Bool.false_ne_true, if_pos h]

namespace Outline

theorem read_integer {n : Nat} (hn : n < 2 ^ 64) {greatest : Int} (hle : n ≤ greatest)
    (fuel room : Nat) (rest : List Token) :
    read (fuel + 1) room (.integer 0 greatest) (.whole false (decimalDigits n) :: rest) =
      .ok (.int n, rest) := by
  simp [read, wholeInt?_decimalDigits hn, hle]

theorem read_wide {n greatest : Nat} (hle : n ≤ greatest) (fuel room : Nat) (rest : List Token) :
    read (fuel + 1) room (.wide greatest) (.whole false (decimalDigits n) :: rest) =
      .ok (.int n, rest) := by
  simp [read, ofDecimalDigits_decimalDigits, hle]

/-- One member of a record is read as its field says, and then the members after it. -/
theorem readNamed_member {fuel room i : Nat} {fields : List (List String × Bool × Outline)}
    {seen : List Nat} {first : Bool} {ts value rest rest' : List Token} {name : String}
    {o : Outline} {j : Json} {ms : List (String × Json)}
    (hname : memberName false first ts = .ok (some name, .colon :: value))
    (hfield : fieldNamed name fields 0 = some (i, o)) (hnew : i ∉ seen)
    (hvalue : read fuel room o value = .ok (j, rest))
    (hrest : readNamed fuel room fields (i :: seen) false rest = .ok (ms, rest')) :
    readNamed (fuel + 1) room fields seen first ts = .ok ((name, j) :: ms, rest') := by
  simp [readNamed, hname, hfield, hnew, afterColon, hvalue, hrest, bind, Except.bind, pure,
    Except.pure]

/-- A record ends where all fields that must be there have been seen. -/
theorem readNamed_closeBrace {fields : List (List String × Bool × Outline)} {seen : List Nat}
    (hcomplete : complete seen fields 0 = true) (fuel room : Nat) (first : Bool)
    (rest : List Token) :
    readNamed (fuel + 1) room fields seen first (.closeBrace :: rest) = .ok ([], rest) := by
  simp [readNamed, memberName, hcomplete, bind, Except.bind, pure, Except.pure]

theorem read_record {fuel room : Nat} {fields : List (List String × Bool × Outline)}
    {ts rest : List Token} {ms : List (String × Json)}
    (hmembers : readNamed fuel room fields [] true ts = .ok (ms, rest)) :
    read (fuel + 1) (room + 1) (.record fields) (.openBrace :: ts) = .ok (.obj ms, rest) := by
  simp [read, hmembers, bind, Except.bind, pure, Except.pure]

end Outline

end Json

end CityCards
