import CityCards.Proofs.Effect.Shapes

/-!
# Which shape an object is read as

An object is read as the first shape that it can be read as in all its parts. A shape of which all
required members are there can still be passed over: if one of its members cannot be read, a later
shape is tried, and what that one does not know of is dropped. So the members that are there decide
the shape only where those of the first such shape can all be read.

Main definitions:
* `Member`: a member of a node, whether it is required, and which values fit.
* `Shape.members`: the members of nodes of a shape.
* `Shape.isWhole`: all required members are there, and all that are there fit.
* `Shape.firstPresent?`: the first shape of which all required members are there.

Results:
* `Shape.isWhole_eq`: an object can be read as a shape exactly if it is whole.
* `Effect.map_shape_ofJson`: an object is read as the first shape in which it is whole.
* `Effect.shape_read_iff`: the members that are there decide the shape exactly if the object is
  whole in the first shape whose required members are there, or in none.
* `Effect.shape_passed_over`: an object need not be whole in the first such shape.
-/

namespace CityCards

/-! ## Outcomes that are values -/

namespace Ranked

variable {α β : Type}

/-- The outcome is a value. -/
def isOk : Ranked α → Bool
  | .ok _ => true
  | .fault .. => false

theorem isOk_iff {x : Ranked α} : x.isOk = true ↔ ∃ a, x = .ok a := by
  cases x <;> simp [isOk]

@[simp] theorem isOk_map (f : α → β) (x : Ranked α) : (f <$> x).isOk = x.isOk := by
  cases x <;> rfl

@[simp] theorem isOk_seq (f : Ranked (α → β)) (x : Ranked α) :
    (f <*> x).isOk = (f.isOk && x.isOk) := by
  rw [Bool.eq_iff_iff, Bool.and_eq_true, isOk_iff, isOk_iff, isOk_iff]
  simp [seq_eq_ok_iff]

@[simp] theorem isOk_seqLeft (x : Ranked α) (y : Ranked β) :
    (x <* y).isOk = (x.isOk && y.isOk) := by
  rw [Bool.eq_iff_iff, Bool.and_eq_true, isOk_iff, isOk_iff, isOk_iff]
  simp [seqLeft_eq_ok_iff]

end Ranked

/-! ## Members of an object -/

/-- The values of all members with that name. -/
def Json.valuesOf (name : String) (ms : List (String × Json)) : List Json :=
  (ms.filter fun m => m.1 = name).map Prod.snd

/-- A member that nodes of a shape have. -/
structure Member where
  name : String
  required : Bool
  fits : Json → Bool

/-- The object has the member once with a value that fits, or lacks it and may do so. -/
def Member.isFilled (m : Member) (ms : List (String × Json)) : Bool :=
  match Json.valuesOf m.name ms with
  | [] => !m.required
  | [v] => m.fits v
  | _ => false

/-- The member that a field is read from. Without a default it is required, and a value fits if it
can be read. -/
def Member.ofField {α : Type} (name : String) (absent : Option α)
    (read : Json → Except ReadError α) : Member :=
  ⟨name, absent.isNone, fun v => (read v).isOk⟩

namespace Record

theorem map_snd_occurrences (name : String) (start : Nat) (ms : List (String × Json)) :
    (occurrences [name] start ms).map Prod.snd = Json.valuesOf name ms := by
  induction ms generalizing start with
  | nil => rfl
  | cons m rest ih =>
    by_cases h : m.1 = name <;> simpa [occurrences, Json.valuesOf, h] using ih (start + 1)

/-- A field of an object can be read exactly if its member is filled, whatever its place. -/
theorem isOk_field {α : Type} (ms : List (String × Json)) (l : RecordLayout) (place : Nat)
    (name : String) (absent : Option α) (read : Json → Except ReadError α) :
    ((named ms).field l place [name] absent read).isOk =
      (Member.ofField name absent read).isFilled ms := by
  simp only [field, Member.isFilled, Member.ofField, ← map_snd_occurrences name 0]
  generalize occurrences [name] 0 ms = found
  rcases found with _ | ⟨⟨i, v⟩, _ | ⟨⟨j, w⟩, rest⟩⟩
  · cases absent <;> rfl
  · cases hv : read v <;> simp [Ranked.ofExcept, Ranked.isOk, hv, Except.isOk, Except.toBool]
  · cases hv : read v <;> simp [Ranked.isOk, hv]

end Record

/-! ## Members of a node -/

namespace Shape

/-- The members of a node that carry its marks. -/
def markMembers : List Member := [
  .ofField "discardAfter" (some false) Json.readBool,
  .ofField "removeAfter" (some false) Json.readBool]

/-- The members of a node of the shape. -/
def members (s : Shape) : List Member :=
  let own : List Member := match s with
    | .basic => [
      .ofField "type" none (Vocabulary.read : Json → Except ReadError EffectKind),
      .ofField "cardId" (some none) (Json.readOption Json.readString),
      .ofField "description" none Json.readString]
    | .conditional => [
      .ofField "condition" none Condition.ofJson,
      .ofField "ifTrue" none Effect.ofJson,
      .ofField "ifFalse" (some none) (Json.readOption Effect.ofJson)]
    | .multi => [
      .ofField "branches" none (Json.readList branchOfJson),
      .ofField "default" (some none) (Json.readOption Effect.ofJson)]
    | .choice => [
      .ofField "description" (some "") Json.readString,
      .ofField "minChoices" (some 1) Json.readUInt32,
      .ofField "maxChoices" (some 1) Json.readUInt32,
      .ofField "options" none (Json.readList Effect.ofJson)]
    | .forEach => [
      .ofField "target" none Json.readString,
      .ofField "effect" none Effect.ofJson,
      .ofField "description" none Json.readString]
    | .composite => [
      .ofField "effects" none (Json.readList Effect.ofJson),
      .ofField "description" (some none) (Json.readOption Json.readString)]
  own ++ markMembers

/-- All members that the shape requires are there, and all members of a node of the shape that are
there fit and are there once. -/
def isWhole (s : Shape) (ms : List (String × Json)) : Bool := s.members.all fun m => m.isFilled ms

/-- All members that the shape requires are there, whatever their values. -/
def isPresent (s : Shape) (ms : List (String × Json)) : Bool :=
  s.required.all fun name => (Json.find? name ms).isSome

/-- The first shape, in the order in which they are tried, of which all required members are
there. -/
def firstPresent? (ms : List (String × Json)) : Option Shape := all.find? fun s => s.isPresent ms

variable {ms : List (String × Json)} {e : Effect}

/-- An object can be read as a shape exactly if it is whole. -/
theorem isWhole_eq (s : Shape) (ms : List (String × Json)) :
    s.isWhole ms = (s.ofRecord ((Record.named ms).map Readings.ofJson)).isOk := by
  have hclosed : ((Record.named ms).closed s.layout).isOk = true := rfl
  cases s <;>
    simp [isWhole, members, markMembers, ofRecord, fields, Record.marksField, Record.closed_map,
      Record.plainField_map, Record.optionalEffect_map, Record.field_map_effect,
      Record.field_map_effects, Record.field_map_branches, Record.isOk_field, hclosed,
      Bool.and_assoc]

theorem isPresent_of_isWhole {s : Shape} (h : s.isWhole ms = true) : s.isPresent ms = true := by
  rw [isWhole_eq] at h
  obtain ⟨e, he⟩ := Ranked.isOk_iff.mp h
  exact List.all_eq_true.mpr (isSome_find?_of_ofRecord he)

/-- If the object is whole in the first shape whose required members are there, it is so in none
before it. -/
theorem find?_isWhole_of_firstPresent? {s : Shape} (hs : firstPresent? ms = some s)
    (hwhole : s.isWhole ms = true) : all.find? (fun s => s.isWhole ms) = some s := by
  obtain ⟨-, before, after, hall, hbefore⟩ := List.find?_eq_some_iff_append.mp hs
  refine List.find?_eq_some_iff_append.mpr ⟨hwhole, before, after, hall, fun t ht => ?_⟩
  have habsent := hbefore t ht
  simp only [Bool.not_eq_true'] at habsent ⊢
  exact Bool.eq_false_iff.mpr fun h => Bool.eq_false_iff.mp habsent (isPresent_of_isWhole h)

theorem exists_firstPresent? {t : Shape} (ht : t.isWhole ms = true) :
    ∃ s, firstPresent? ms = some s :=
  Option.isSome_iff_exists.mp
    (List.find?_isSome.mpr ⟨t, mem_all t, isPresent_of_isWhole ht⟩)

end Shape

/-! ## The shape that is taken -/

namespace Effect

variable {ms : List (String × Json)} {e : Effect}

theorem map_shape_firstShape (ms : List (String × Json)) (shapes : List Shape) :
    (Readings.firstShape ((Record.named ms).map Readings.ofJson) shapes).toOption.map shape =
      shapes.find? fun s => s.isWhole ms := by
  induction shapes with
  | nil => rfl
  | cons s rest ih =>
    have hwhole := s.isWhole_eq ms
    rw [Readings.firstShape, List.find?_cons]
    cases hs : s.ofRecord ((Record.named ms).map Readings.ofJson) with
    | ok e =>
      rw [hs] at hwhole
      rw [hwhole, ← Shape.shape_of_ofRecord hs]
      rfl
    | fault rank error =>
      rw [hs] at hwhole
      rw [hwhole]
      exact ih

/-- An object is read as the first shape in which it is whole, and not at all if there is none. -/
theorem map_shape_ofJson (ms : List (String × Json)) :
    (ofJson (.obj ms)).toOption.map shape = Shape.all.find? fun s => s.isWhole ms := by
  rw [ofJson_obj]
  exact map_shape_firstShape ms Shape.all

theorem find?_isWhole_of_ofJson (h : ofJson (.obj ms) = .ok e) :
    Shape.all.find? (fun s => s.isWhole ms) = some e.shape := by
  rw [← map_shape_ofJson, h]
  rfl

theorem isWhole_of_ofJson (h : ofJson (.obj ms) = .ok e) : e.shape.isWhole ms = true := by
  rw [Shape.isWhole_eq, ofRecord_shape_of_ofJson h]
  rfl

/-- An object is read as the first shape in which it is whole. That the members that are there
decide the shape, so that whatever is read has the first shape whose required members are there, is
the case exactly if the object is whole in that shape, or in none. -/
theorem shape_read_iff (ms : List (String × Json)) :
    (ofJson (.obj ms)).toOption.map shape = Shape.all.find? (fun s => s.isWhole ms) ∧
      ((∀ e, ofJson (.obj ms) = .ok e → Shape.firstPresent? ms = some e.shape) ↔
        ∀ s, Shape.firstPresent? ms = some s →
          s.isWhole ms = true ∨ ∀ t : Shape, t.isWhole ms = false) := by
  refine ⟨map_shape_ofJson ms, fun hdecides s hs => ?_, fun hwhole e he => ?_⟩
  · cases hread : ofJson (.obj ms) with
    | ok e =>
      obtain rfl : s = e.shape := Option.some.inj (hs.symm.trans (hdecides e hread))
      exact Or.inl (isWhole_of_ofJson hread)
    | error error =>
      have hnone := map_shape_ofJson ms
      rw [hread] at hnone
      refine Or.inr fun t => Bool.eq_false_iff.mpr ?_
      exact List.find?_eq_none.mp hnone.symm t (Shape.mem_all t)
  · have hshape := isWhole_of_ofJson he
    obtain ⟨s, hs⟩ := Shape.exists_firstPresent? hshape
    rcases hwhole s hs with h | hnone
    · rw [hs, ← Shape.find?_isWhole_of_firstPresent? hs h, find?_isWhole_of_ofJson he]
    · rw [hnone e.shape] at hshape
      cases hshape

/-- An object that has all members of a basic effect, of a kind that there is not, and the members
of a sequence. -/
def unknownSequence : List (String × Json) :=
  [("description", .str "Arde"), ("effects", .arr []), ("type", .str "explode")]

/-- A question whose answer is a node of an unknown kind, with the members of a sequence. -/
def brokenQuestion : List (String × Json) :=
  [("condition", (Condition.mk .custom none none none "Llueve").toJson), ("effects", .arr []),
    ("ifTrue", .obj [("description", .str "Arde"), ("type", .str "explode")])]

/-- Both are read as sequences, and what makes them a basic effect or a question is dropped. -/
theorem shape_passed_over :
    (Shape.firstPresent? unknownSequence = some .basic ∧
      ofJson (.obj unknownSequence) = .ok (.composite [] (some "Arde") .none)) ∧
    (Shape.firstPresent? brokenQuestion = some .conditional ∧
      ofJson (.obj brokenQuestion) = .ok (.composite [] none .none)) :=
  ⟨⟨rfl, rfl⟩, rfl, rfl⟩

end Effect

end CityCards
