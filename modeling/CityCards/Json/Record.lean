import CityCards.Json.Read

/-!
# Records

A record is written either as an object, whose members go by name in any order, or as an array,
whose items go by place. Each field is read on its own; of several faults the one that is met first
counts, and for that every fault knows its rank, the number of parts that are met before it.

Results:
* `Ranked.seq_eq_ok_iff`, `Ranked.map_eq_ok_iff`: a record is read exactly when each field is.
* `Record.read_obj_eq_ok_iff`: an object is read as a record from its members.
* `Record.field_map`: what a field is read from can be computed part by part beforehand.
-/

namespace CityCards

/-- The parts of a record, by name or by place. -/
inductive Record (β : Type) where
  | named (members : List (String × β))
  | placed (items : List β)

/-- The name of a record and how many fields it has. -/
structure RecordLayout where
  name : String
  size : Nat

/-- The outcome of reading a part of a record: a value, or a fault and its rank. -/
inductive Ranked (α : Type) where
  | ok (a : α)
  | fault (rank : Nat) (error : ReadError)

namespace Ranked

/-- The outcome without the rank. -/
def run {α : Type} : Ranked α → Except ReadError α
  | .ok a => .ok a
  | .fault _ e => .error e

/-- Gives an outcome its rank. -/
def ofExcept {α : Type} (rank : Nat) : Except ReadError α → Ranked α
  | .ok a => .ok a
  | .error e => .fault rank e

/-- Both values, or the fault that is met first. -/
def both {α β : Type} : Ranked α → Ranked β → Ranked (α × β)
  | .ok a, .ok b => .ok (a, b)
  | .ok _, .fault j e => .fault j e
  | .fault i e, .ok _ => .fault i e
  | .fault i e, .fault j e' => if j < i then .fault j e' else .fault i e

/-- Applies a function to the value. -/
def map {α β : Type} (f : α → β) : Ranked α → Ranked β
  | .ok a => .ok (f a)
  | .fault i e => .fault i e

instance : Applicative Ranked where
  pure := .ok
  map := map
  seq f a := (f.both (a ())).map fun p => p.1 p.2

theorem run_eq_ok_iff {α : Type} {x : Ranked α} {a : α} : x.run = .ok a ↔ x = .ok a := by
  cases x <;> simp [run]

theorem seq_eq_ok_iff {α β : Type} {f : Ranked (α → β)} {x : Ranked α} {b : β} :
    f <*> x = .ok b ↔ ∃ g a, f = .ok g ∧ x = .ok a ∧ g a = b := by
  show ((f.both x).map fun p => p.1 p.2) = .ok b ↔ _
  cases f with
  | ok g => cases x <;> simp [both, map]
  | fault i e =>
    cases x with
    | ok a => simp [both, map]
    | fault j e' => by_cases h : j < i <;> simp [both, map, h]

theorem map_eq_ok_iff {α β : Type} {f : α → β} {x : Ranked α} {b : β} :
    f <$> x = .ok b ↔ ∃ a, x = .ok a ∧ f a = b := by
  show map f x = .ok b ↔ _
  cases x <;> simp [map]

end Ranked

namespace Record

/-- The values of all members that go by one of the names, each with its place. -/
def occurrences {β : Type} (names : List String) : Nat → List (String × β) → List (Nat × β)
  | _, [] => []
  | i, (k, v) :: rest =>
    if k ∈ names then (i, v) :: occurrences names (i + 1) rest else occurrences names (i + 1) rest

/-- Reads the field at a place. It goes by the first of the names, and by the others as well. A
record that lacks the field takes `absent` for it, if there is such a value; what a named record
lacks is met after all that it has. -/
def field {β α : Type} (r : Record β) (layout : RecordLayout) (place : Nat) (names : List String)
    (absent : Option α) (read : β → Except ReadError α) : Ranked α :=
  match r with
  | .named members =>
    match occurrences names 0 members with
    | [] => match absent with
      | some a => .ok a
      | none => .fault (members.length + place) (.missingField (names.headD ""))
    | [(i, v)] => Ranked.ofExcept i (read v)
    | (i, v) :: (j, _) :: _ => match read v with
      | .error e => .fault i e
      | .ok _ => .fault j (.duplicateField (names.headD ""))
  | .placed items =>
    match items[place]? with
    | some v => Ranked.ofExcept place (read v)
    | none => match absent with
      | some a => .ok a
      | none => .fault place (.tooShort place layout.name layout.size)

/-- Nothing follows the last field of a record given by place. -/
def closed {β : Type} (r : Record β) (layout : RecordLayout) : Ranked Unit :=
  match r with
  | .named _ => .ok ()
  | .placed items =>
    if layout.size < items.length then .fault layout.size (.tooLong items.length) else .ok ()

/-- The record with every part replaced. -/
def map {β γ : Type} (f : β → γ) : Record β → Record γ
  | .named members => .named (members.map fun m => (m.1, f m.2))
  | .placed items => .placed (items.map f)

/-- The parts of a value that is to be read as a record. -/
def ofJson (layout : RecordLayout) : Json → Except ReadError (Record Json)
  | .obj members => .ok (.named members)
  | .arr items => .ok (.placed items)
  | j => .error (.invalidType j (.record layout.name))

/-- Reads a value as a record. -/
def read {α : Type} (layout : RecordLayout) (ofRecord : Record Json → Ranked α) (j : Json) :
    Except ReadError α :=
  match ofJson layout j with
  | .ok r => (ofRecord r).run
  | .error e => .error e

theorem read_obj_eq_ok_iff {α : Type} {layout : RecordLayout} {ofRecord : Record Json → Ranked α}
    {members : List (String × Json)} {a : α} :
    read layout ofRecord (.obj members) = .ok a ↔ ofRecord (.named members) = .ok a :=
  Ranked.run_eq_ok_iff

theorem occurrences_map {β γ : Type} (f : β → γ) (names : List String) (i : Nat)
    (members : List (String × β)) :
    occurrences names i (members.map fun m => (m.1, f m.2)) =
      (occurrences names i members).map fun m => (m.1, f m.2) := by
  induction members generalizing i with
  | nil => rfl
  | cons m rest ih =>
    by_cases h : m.1 ∈ names <;> simp [occurrences, h, ih]

theorem field_map {β γ α : Type} (f : β → γ) (r : Record β) (layout : RecordLayout) (place : Nat)
    (names : List String) (absent : Option α) (read : γ → Except ReadError α) :
    (r.map f).field layout place names absent read =
      r.field layout place names absent fun v => read (f v) := by
  cases r with
  | named members =>
    simp only [map, field, occurrences_map, List.length_map]
    rcases occurrences names 0 members with _ | ⟨⟨i, v⟩, _ | ⟨⟨j, w⟩, t⟩⟩ <;> rfl
  | placed items =>
    simp only [map, field, List.getElem?_map]
    cases items[place]? <;> rfl

theorem closed_map {β γ : Type} (f : β → γ) (r : Record β) (layout : RecordLayout) :
    (r.map f).closed layout = r.closed layout := by
  cases r <;> simp [map, closed]

end Record

end CityCards
