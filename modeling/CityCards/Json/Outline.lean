import CityCards.Json.Token
import CityCards.Json.Value

/-!
# Reading JSON text by an outline

An outline says what a text is to be read as. It is followed token by token, and the first place
that does not fit decides how the reading fails: because the text is malformed, because it ends too
early, or because it holds a value of the wrong kind. Parts that the outline does not ask for are
skipped; parts that it takes as a whole are read to their end before they are judged.

Main definitions:
* `Outline`: what a text is read as.
* `Outline.readAll`: the value of a text that fits an outline, or the first fault.
-/

namespace CityCards.Json

/-- What a text is read as. -/
inductive Outline where
  /-- Any value. -/
  | any
  /-- Any value that passes a test once it has been read as a whole. -/
  | checked (accepts : Json → Bool)
  | text
  | boolean
  /-- An integer between the two bounds. -/
  | integer (least greatest : Int)
  /-- An integer from zero up to the bound, however many digits it has. -/
  | wide (greatest : Nat)
  /-- One of the names, as a string or as the only member of an object with the value `null`. -/
  | name (names : List String)
  /-- A value that may be `null`. -/
  | optional (o : Outline)
  | list (o : Outline)
  /-- An object whose members have names from the list. -/
  | table (names : List String) (o : Outline)
  /-- A record: for each field the names it goes by, whether it must be there, and its outline. -/
  | record (fields : List (List String × Bool × Outline))

/-- How many containers may stand inside one another. -/
def nestingLimit : Nat := 127

/-- The integer of a whole numeral if it fits into 64 bits, signed or unsigned; zero has no minus
sign. -/
def wholeInt? (negative : Bool) (digits : List Nat) : Option Int :=
  let n := ofDecimalDigits digits
  if negative then (if n = 0 || 2 ^ 63 < n then none else some (-Int.ofNat n))
  else if n < 2 ^ 64 then some (Int.ofNat n) else none

/-- The value of a whole numeral. -/
def ofWhole (negative : Bool) (digits : List Nat) : Json :=
  match wholeInt? negative digits with
  | some n => .int n
  | none => .decimal ⟨negative, digits, [], 0⟩

/-- A number is in range; nothing else has a range. -/
def inRange : Json → Bool
  | .decimal x => x.value?.isSome
  | _ => true

namespace Outline

/-- What reading yields: a value and the tokens after it. -/
abbrev Reading := Except Fault (Json × List Token)

/-! ## Values of any kind -/

/-- A number that has been read; one out of range is no value, but can be skipped. -/
def number (skipping : Bool) (j : Json) (rest : List Token) : Reading :=
  if skipping || inRange j then .ok (j, rest) else .error .malformed

/-- The name of the next member and the tokens after it, or `none` with the tokens after the
closing brace. -/
def memberName (skipping first : Bool) (ts : List Token) :
    Except Fault (Option String × List Token) :=
  let key (ts : List Token) : Except Fault (Option String × List Token) :=
    match ts with
    | [] => .error .truncated
    | .str (some s) :: rest => .ok (some s, rest)
    | .str none :: rest => if skipping then .ok (some "", rest) else .error .malformed
    | .broken .quote r s :: _ => .error (if skipping then s else r)
    | _ => .error .malformed
  match ts with
  | .closeBrace :: rest => .ok (none, rest)
  | .comma :: rest => if first then .error .malformed else key rest
  | [] => .error .truncated
  | ts => if first then key ts else .error .malformed

/-- The tokens after a colon. -/
def afterColon : List Token → Except Fault (List Token)
  | .colon :: rest => .ok rest
  | [] => .error .truncated
  | _ => .error .malformed

/-- Whether another item follows, with the tokens it starts at, or the tokens after the closing
bracket. -/
def nextItem (first : Bool) : List Token → Except Fault (Bool × List Token)
  | .closeBracket :: rest => .ok (false, rest)
  | [] => .error .truncated
  | .comma :: rest =>
    if first then .ok (true, .comma :: rest)
    else match rest with
      | [] => .error .truncated
      | .closeBracket :: _ => .error .malformed
      | _ => .ok (true, rest)
  | ts => if first then .ok (true, ts) else .error .malformed

mutual

/-- A value of any kind. Who skips over it asks neither how deep it is nested, nor whether its
numbers are in range and its strings have a text. -/
def value (skipping : Bool) : (fuel room : Nat) → List Token → Reading
  | 0, _, _ => .error .truncated
  | fuel + 1, room, ts =>
    match ts with
    | [] => .error .truncated
    | .null :: rest => .ok (.null, rest)
    | .bool b :: rest => .ok (.bool b, rest)
    | .whole negative ds :: rest => number skipping (ofWhole negative ds) rest
    | .decimal x :: rest => number skipping (.decimal x) rest
    | .str (some s) :: rest => .ok (.str s, rest)
    | .str none :: rest => if skipping then .ok (.null, rest) else .error .malformed
    | .broken _ r s :: _ => .error (if skipping then s else r)
    | .openBracket :: rest =>
      if room = 0 && !skipping then .error .malformed
      else match items skipping fuel (room - 1) true rest with
        | .ok (js, rest) => .ok (.arr js, rest)
        | .error f => .error f
    | .openBrace :: rest =>
      if room = 0 && !skipping then .error .malformed
      else match members skipping fuel (room - 1) true rest with
        | .ok (ms, rest) => .ok (.obj ms, rest)
        | .error f => .error f
    | _ => .error .malformed

/-- The items up to the closing bracket. -/
def items (skipping : Bool) :
    (fuel room : Nat) → Bool → List Token → Except Fault (List Json × List Token)
  | 0, _, _, _ => .error .truncated
  | fuel + 1, room, first, ts => do
    let (more, ts) ← nextItem first ts
    if more then
      let (j, ts) ← value skipping fuel room ts
      let (js, ts) ← items skipping fuel room false ts
      return (j :: js, ts)
    else return ([], ts)

/-- The members up to the closing brace. -/
def members (skipping : Bool) :
    (fuel room : Nat) → Bool → List Token → Except Fault (List (String × Json) × List Token)
  | 0, _, _, _ => .error .truncated
  | fuel + 1, room, first, ts => do
    match ← memberName skipping first ts with
    | (none, ts) => return ([], ts)
    | (some k, ts) =>
      let ts ← afterColon ts
      let (j, ts) ← value skipping fuel room ts
      let (ms, ts) ← members skipping fuel room false ts
      return ((k, j) :: ms, ts)

end

/-! ## Values of a given kind -/

/-- The fault where a value of another kind was wanted: a scalar is read to its end first. -/
def otherKind : List Token → Fault
  | [] => .truncated
  | .whole negative ds :: _ =>
    if inRange (ofWhole negative ds) then .mistyped else .malformed
  | .decimal x :: _ => if inRange (.decimal x) then .mistyped else .malformed
  | .str none :: _ => .malformed
  | .broken _ r _ :: _ => r
  | .null :: _ | .bool _ :: _ | .str _ :: _ | .openBracket :: _ | .openBrace :: _ => .mistyped
  | _ => .malformed

/-- A string. -/
def readText : List Token → Except Fault (String × List Token)
  | .str (some s) :: rest => .ok (s, rest)
  | ts => .error (otherKind ts)

/-- The name of the only member of an object. -/
def soleName : List Token → Except Fault (String × List Token)
  | .str (some s) :: rest => .ok (s, rest)
  | [] => .error .truncated
  | .broken .quote r _ :: _ => .error r
  | _ => .error .malformed

/-- A name, as a string or as the only member of an object with the value `null`. -/
def readName (names : List String) (room : Nat) (ts : List Token) : Reading :=
  let known (s : String) : Except Fault Unit :=
    if s ∈ names then .ok () else .error .mistyped
  match ts with
  | [] => .error .truncated
  | .str (some s) :: rest => do known s; return (.str s, rest)
  | .broken .quote r _ :: _ => .error r
  | .openBrace :: rest =>
    if room = 0 then .error .malformed
    else do
      let (s, ts) ← soleName rest
      known s
      match ← afterColon ts with
      | .null :: .closeBrace :: rest => return (.obj [(s, .null)], rest)
      | [.null] => .error .truncated
      | .null :: _ => .error .malformed
      | ts => .error (otherKind ts)
  | _ => .error .malformed

/-- The index and outline of the field that goes by the name. -/
def fieldNamed (name : String) : List (List String × Bool × Outline) → Nat → Option (Nat × Outline)
  | [], _ => none
  | (names, _, o) :: rest, i => if name ∈ names then some (i, o) else fieldNamed name rest (i + 1)

/-- Every field from place `i` on that must be there has been seen. -/
def complete (seen : List Nat) : List (List String × Bool × Outline) → Nat → Bool
  | [], _ => true
  | (_, required, _) :: rest, i => (!required || i ∈ seen) && complete seen rest (i + 1)

mutual

/-- Reads a value as the outline says. -/
def read : (fuel room : Nat) → Outline → List Token → Reading
  | 0, _, _, _ => .error .truncated
  | fuel + 1, room, .any, ts => value false fuel room ts
  | fuel + 1, room, .checked accepts, ts => do
    let (j, ts) ← value false fuel room ts
    if accepts j then return (j, ts) else .error .mistyped
  | _ + 1, _, .text, ts => do
    let (s, ts) ← readText ts
    return (.str s, ts)
  | _ + 1, _, .boolean, ts =>
    match ts with
    | .bool b :: rest => .ok (.bool b, rest)
    | ts => .error (otherKind ts)
  | _ + 1, _, .integer least greatest, ts =>
    match ts with
    | .whole negative ds :: rest =>
      match wholeInt? negative ds with
      | some n => if least ≤ n && n ≤ greatest then .ok (.int n, rest) else .error .mistyped
      | none => .error (otherKind ts)
    | ts => .error (otherKind ts)
  | _ + 1, _, .wide greatest, ts =>
    match ts with
    | [] => .error .truncated
    | .whole false ds :: rest =>
      let n := ofDecimalDigits ds
      if n ≤ greatest then .ok (.int (Int.ofNat n), rest) else .error .malformed
    | _ => .error .malformed
  | _ + 1, room, .name names, ts => readName names room ts
  | fuel + 1, room, .optional o, ts =>
    match ts with
    | .null :: rest => .ok (.null, rest)
    | .broken .null r _ :: _ => .error r
    | ts => read fuel room o ts
  | fuel + 1, room, .list o, ts =>
    match ts with
    | .openBracket :: rest =>
      if room = 0 then .error .malformed
      else do
        let (js, ts) ← readItems fuel (room - 1) o true rest
        return (.arr js, ts)
    | ts => .error (otherKind ts)
  | fuel + 1, room, .table names o, ts =>
    match ts with
    | .openBrace :: rest =>
      if room = 0 then .error .malformed
      else do
        let (ms, ts) ← readTable fuel (room - 1) names o true rest
        return (.obj ms, ts)
    | ts => .error (otherKind ts)
  | fuel + 1, room, .record fields, ts =>
    match ts with
    | .openBrace :: rest =>
      if room = 0 then .error .malformed
      else do
        let (ms, ts) ← readNamed fuel (room - 1) fields [] true rest
        return (.obj ms, ts)
    | .openBracket :: rest =>
      if room = 0 then .error .malformed
      else do
        let (js, ts) ← readPlaced fuel (room - 1) fields true rest
        return (.arr js, ts)
    | ts => .error (otherKind ts)

/-- The items of a list. -/
def readItems : (fuel room : Nat) → Outline → Bool → List Token →
    Except Fault (List Json × List Token)
  | 0, _, _, _, _ => .error .truncated
  | fuel + 1, room, o, first, ts => do
    let (more, ts) ← nextItem first ts
    if more then
      let (j, ts) ← read fuel room o ts
      let (js, ts) ← readItems fuel room o false ts
      return (j :: js, ts)
    else return ([], ts)

/-- The members of a table. A wrong name is met before the colon after it. -/
def readTable : (fuel room : Nat) → List String → Outline → Bool → List Token →
    Except Fault (List (String × Json) × List Token)
  | 0, _, _, _, _, _ => .error .truncated
  | fuel + 1, room, names, o, first, ts => do
    match ← memberName false first ts with
    | (none, ts) => return ([], ts)
    | (some k, ts) =>
      if k ∉ names then .error .mistyped
      else
        let ts ← afterColon ts
        let (j, ts) ← read fuel room o ts
        let (ms, ts) ← readTable fuel room names o false ts
        return ((k, j) :: ms, ts)

/-- The members of a record, of which the fields with indices `seen` have been read. Members of
other names are skipped; a field met for the second time is met before the colon after its name. -/
def readNamed : (fuel room : Nat) → List (List String × Bool × Outline) → List Nat → Bool →
    List Token → Except Fault (List (String × Json) × List Token)
  | 0, _, _, _, _, _ => .error .truncated
  | fuel + 1, room, fields, seen, first, ts => do
    match ← memberName false first ts with
    | (none, ts) => if complete seen fields 0 then return ([], ts) else .error .mistyped
    | (some k, ts) =>
      match fieldNamed k fields 0 with
      | none =>
        let ts ← afterColon ts
        let (_, ts) ← value true fuel room ts
        readNamed fuel room fields seen false ts
      | some (i, o) =>
        if i ∈ seen then .error .mistyped
        else
          let ts ← afterColon ts
          let (j, ts) ← read fuel room o ts
          let (ms, ts) ← readNamed fuel room fields (i :: seen) false ts
          return ((k, j) :: ms, ts)

/-- The items of a record given by place. Nothing but the closing bracket may follow the last
field. -/
def readPlaced : (fuel room : Nat) → List (List String × Bool × Outline) → Bool → List Token →
    Except Fault (List Json × List Token)
  | 0, _, _, _, _ => .error .truncated
  | _ + 1, _, [], _, ts =>
    match ts with
    | .closeBracket :: rest => .ok ([], rest)
    | [] => .error .truncated
    | _ => .error .malformed
  | fuel + 1, room, (names, required, o) :: fields, first, ts => do
    let (more, ts) ← nextItem first ts
    if more then
      let (j, ts) ← read fuel room o ts
      let (js, ts) ← readPlaced fuel room fields false ts
      return (j :: js, ts)
    else if complete [] ((names, required, o) :: fields) 0 then return ([], ts)
    else .error .mistyped

end

/-- Reads a whole text as the outline says. Four steps for every token are more than any reading
takes. -/
def readAll (o : Outline) (s : String) : Except Fault Json :=
  let ts := Token.scan s
  match read (4 * ts.length + 4) nestingLimit o ts with
  | .ok (j, []) => .ok j
  | .ok (_, _ :: _) => .error .malformed
  | .error f => .error f

end Outline

end CityCards.Json
