import CityCards.Decimal.Numeral
import CityCards.Text.Quoted

/-!
# JSON tokens

A JSON text as a list of tokens. Where no token can be read the list ends with a `broken` one,
which says what a reader makes of the place: one that wants the value there, and one that only
skips over it. A string with an escape for half of a surrogate pair is delimited but has no text.

Results:
* `scanFrom_skip`: characters that belong to the token just read are passed over.
-/

namespace CityCards.Json

/-- Why a text cannot be read: it breaks the grammar, it ends too early, or it holds a value of the
wrong kind. -/
inductive Fault where
  | malformed
  | truncated
  | mistyped
  deriving DecidableEq, Repr

/-- How a place where no token can be read begins: like a string, like the word `null`, or
otherwise. -/
inductive Lead where
  | quote
  | null
  | other
  deriving DecidableEq, Repr

/-- A token of a JSON text. -/
inductive Token where
  | openBrace
  | closeBrace
  | openBracket
  | closeBracket
  | colon
  | comma
  | null
  | bool (b : Bool)
  /-- A numeral without fraction and exponent. -/
  | whole (negative : Bool) (digits : List Nat)
  /-- A numeral with a fraction or an exponent. -/
  | decimal (x : Numeral)
  /-- A string; `none` if an escape in it names half of a surrogate pair. -/
  | str (text : Option String)
  /-- No token: the fault for a reader of a value, and for one that skips over it. -/
  | broken (lead : Lead) (read skip : Fault)
  deriving DecidableEq, Repr

namespace Token

/-- White space between tokens. -/
def isSpace (c : Char) : Bool := c = ' ' || c = '\n' || c = '\t' || c = '\r'

/-- The value of a decimal digit. -/
def digit? (c : Char) : Option Nat :=
  if '0' ≤ c && c ≤ '9' then some (c.toNat - '0'.toNat) else none

/-- The digits at the start of a text. -/
def digits (s : List Char) : List Nat :=
  match s with
  | [] => []
  | c :: r => match digit? c with
    | some d => d :: digits r
    | none => []

/-- What is left of the text after its leading digits. -/
def afterDigits (s : List Char) : List Char := s.drop (digits s).length

/-! ## Literals -/

/-- A fixed word whose first character has been read: the token, or the fault at the first
character that does not fit. -/
def literal (t : Token) (lead : Lead) : List Char → List Char → Token
  | [], _ => t
  | _ :: _, [] => .broken lead .truncated .truncated
  | w :: ws, c :: cs => if c = w then literal t lead ws cs else .broken lead .malformed .malformed

/-! ## Numerals -/

/-- The fault of a numeral that lacks a digit at this place: who skips over it does not ask whether
the text ends here. -/
def missingDigit (s : List Char) : Token :=
  .broken .other (if s.isEmpty then .truncated else .malformed) .malformed

/-- The rest of a numeral after its mantissa, at the sign of the exponent. -/
def exponentPart (negative : Bool) (whole fraction : List Nat) (s : List Char) : Token :=
  let (down, ds) := match s with
    | '-' :: r => (true, r)
    | '+' :: r => (false, r)
    | _ => (false, s)
  match digits ds with
  | [] => missingDigit ds
  | es =>
    let e := Int.ofNat (ofDecimalDigits es)
    .decimal ⟨negative, whole, fraction, if down then -e else e⟩

/-- The rest of a numeral after the digits before the point. -/
def afterWhole (negative : Bool) (whole : List Nat) (s : List Char) : Token :=
  match s with
  | '.' :: r =>
    match digits r with
    | [] => missingDigit r
    | ds => match afterDigits r with
      | 'e' :: q => exponentPart negative whole ds q
      | 'E' :: q => exponentPart negative whole ds q
      | _ => .decimal ⟨negative, whole, ds, 0⟩
  | 'e' :: q => exponentPart negative whole [] q
  | 'E' :: q => exponentPart negative whole [] q
  | _ => .whole negative whole

/-- A numeral after its sign. No digit follows a leading zero. -/
def numeral (negative : Bool) (s : List Char) : Token :=
  match digits s with
  | [] => missingDigit s
  | 0 :: _ :: _ => .broken .other .malformed .malformed
  | ds => afterWhole negative ds (afterDigits s)

/-- How many characters the exponent at the start of the text takes. -/
def exponentLength (s : List Char) : Nat :=
  match s with
  | '-' :: r => 1 + (digits r).length
  | '+' :: r => 1 + (digits r).length
  | _ => (digits s).length

/-- How many characters the numeral at the start of the text takes, its sign apart. -/
def numeralLength (s : List Char) : Nat :=
  let n := (digits s).length
  match s.drop n with
  | '.' :: r =>
    let m := (digits r).length
    match r.drop m with
    | 'e' :: q => n + 1 + m + 1 + exponentLength q
    | 'E' :: q => n + 1 + m + 1 + exponentLength q
    | _ => n + 1 + m
  | 'e' :: q => n + 1 + exponentLength q
  | 'E' :: q => n + 1 + exponentLength q
  | _ => n

/-! ## Strings -/

/-- The value of a hexadecimal digit. -/
def hexDigit? (c : Char) : Option Nat :=
  if '0' ≤ c && c ≤ '9' then some (c.toNat - '0'.toNat)
  else if 'a' ≤ c && c ≤ 'f' then some (c.toNat - 'a'.toNat + 10)
  else if 'A' ≤ c && c ≤ 'F' then some (c.toNat - 'A'.toNat + 10)
  else none

/-- The unit that four hexadecimal digits name. -/
def unit? (a b c d : Char) : Option Nat :=
  match hexDigit? a, hexDigit? b, hexDigit? c, hexDigit? d with
  | some a, some b, some c, some d => some (((a * 16 + b) * 16 + c) * 16 + d)
  | _, _, _, _ => none

/-- A unit that stands for the first half of a pair. -/
def isLeading (n : Nat) : Bool := 0xd800 ≤ n && n ≤ 0xdbff

/-- A unit that stands for the second half of a pair. -/
def isTrailing (n : Nat) : Bool := 0xdc00 ≤ n && n ≤ 0xdfff

/-- The character that a pair of units names. -/
def pairChar (lead trail : Nat) : Char :=
  Char.ofNat ((lead - 0xd800) * 0x400 + (trail - 0xdc00) + 0x10000)

/-- The character that a one-letter escape names. -/
def shortEscape? (c : Char) : Option Char :=
  if c = Text.doubleQuote || c = Text.backslash || c = '/' then some c
  else if c = 'b' then some (Char.ofNat 8)
  else if c = 'f' then some (Char.ofNat 12)
  else if c = 'n' then some '\n'
  else if c = 'r' then some '\r'
  else if c = 't' then some '\t'
  else none

/-- What follows the first half of a surrogate pair. -/
inductive Follower where
  /-- The second half. -/
  | trail (n : Nat)
  /-- Something that cannot be the second half. -/
  | other
  /-- The text breaks off, or breaks the grammar, before that can be told. -/
  | unknown

/-- Looks for the second half of a pair. -/
def follower : List Char → Follower
  | [] => .unknown
  | '\x5c' :: rest => match rest with
    | [] => .unknown
    | 'u' :: rest => match rest with
      | a :: b :: c :: d :: _ => match unit? a b c d with
        | some n => if isTrailing n then .trail n else .other
        | none => .unknown
      | _ => .unknown
    | _ => .other
  | _ => .other

/-- The number of bytes in the text. -/
def byteCount (s : List Char) : Nat := s.foldl (fun n c => n + c.utf8Size) 0

/-- A string after its opening quote, with the characters read so far in reverse: the token, and
how many characters it takes. Once `half` is set there is no text. -/
def string (half : Bool) (done : List Char) (length : Nat) : List Char → Token × Nat
  | [] => (.broken .quote (if half then .malformed else .truncated) .truncated, length)
  | '\x22' :: _ =>
    (.str (if half then none else some (String.ofList done.reverse)), length + 1)
  | '\x5c' :: 'u' :: a :: b :: c :: d :: rest =>
    match unit? a b c d with
    | none => (.broken .quote .malformed .malformed, length)
    | some n =>
      if isTrailing n then string true done (length + 6) rest
      else if isLeading n then
        match follower rest with
        | .trail t => match rest with
          | _ :: _ :: _ :: _ :: _ :: _ :: rest' =>
            string half (pairChar n t :: done) (length + 12) rest'
          | _ => (.broken .quote .malformed .malformed, length)
        | .other => string true done (length + 6) rest
        | .unknown => string half done (length + 6) rest
      else string half (Char.ofNat n :: done) (length + 6) rest
  | '\x5c' :: 'u' :: rest =>
    if byteCount rest < 4 then
      (.broken .quote (if half then .malformed else .truncated) .truncated, length)
    else (.broken .quote .malformed .malformed, length)
  | '\x5c' :: c :: rest =>
    match shortEscape? c with
    | some e => string half (e :: done) (length + 2) rest
    | none => (.broken .quote .malformed .malformed, length)
  | c :: rest =>
    if c = '\x5c' then (.broken .quote (if half then .malformed else .truncated) .truncated, length)
    else if c.toNat < 0x20 then (.broken .quote .malformed .malformed, length)
    else string half (c :: done) (length + 1) rest

/-! ## The list of tokens -/

/-- The token that starts with `c`, and how many characters it takes after `c`. -/
def next (c : Char) (rest : List Char) : Token × Nat :=
  if c = '\x7b' then (.openBrace, 0)
  else if c = '\x7d' then (.closeBrace, 0)
  else if c = '[' then (.openBracket, 0)
  else if c = ']' then (.closeBracket, 0)
  else if c = ':' then (.colon, 0)
  else if c = ',' then (.comma, 0)
  else if c = 'n' then (literal .null .null ['u', 'l', 'l'] rest, 3)
  else if c = 't' then (literal (.bool true) .other ['r', 'u', 'e'] rest, 3)
  else if c = 'f' then (literal (.bool false) .other ['a', 'l', 's', 'e'] rest, 4)
  else if c = '\x22' then string false [] 0 rest
  else if c = '-' then (numeral true rest, numeralLength rest)
  else if (digit? c).isSome then (numeral false (c :: rest), numeralLength (c :: rest) - 1)
  else (.broken .other .malformed .malformed, 0)

/-- The tokens of a text of which the first `skip` characters belong to a token already read. -/
def scanFrom : Nat → List Char → List Token
  | _, [] => []
  | skip + 1, _ :: rest => scanFrom skip rest
  | 0, c :: rest =>
    if isSpace c then scanFrom 0 rest
    else
      match next c rest with
      | (.broken l r s, _) => [.broken l r s]
      | (t, length) => t :: scanFrom length rest

/-- The tokens of a text. -/
def scan (s : String) : List Token := scanFrom 0 s.toList

theorem scanFrom_skip (skipped rest : List Char) :
    scanFrom skipped.length (skipped ++ rest) = scanFrom 0 rest := by
  induction skipped with
  | nil => rfl
  | cons c r ih => simpa [scanFrom] using ih

end Token

end CityCards.Json
