import CityCards.Condition.ConditionJson
import CityCards.Effect.Lifecycle
import CityCards.Json.Fold

/-!
# Effect trees as JSON

How an effect tree is written as JSON and read back. A node carries no tag: the shapes are tried in
a fixed order, and the first that can be read is taken. What a node lacks is left out, as are marks
that are not set, and the members of every object ascend by name.

Main definitions:
* `Effect.toJson`: a tree as JSON.
* `Shape.ofRecord`: a node of a given shape from the parts of a record.
* `Effect.ofJson`: a tree from JSON.
* `Effect.outline`: a tree in a text.
-/

namespace CityCards

/-! ## Marks -/

namespace Marks

/-- The fields of marks that stand alone. -/
def layout : RecordLayout := ⟨"LifecycleFlags", 2⟩

/-- Marks that stand alone as JSON. -/
def toJson (m : Marks) : Json := .obj [("discard", .bool m.discard), ("remove", .bool m.remove)]

/-- Marks that stand alone from the parts of a record. -/
def ofRecord (r : Record Json) : Ranked Marks :=
  Marks.mk <$> r.field layout 0 ["discard"] Option.none Json.readBool
    <*> r.field layout 1 ["remove"] Option.none Json.readBool <* r.closed layout

/-- Marks that stand alone from JSON. -/
def ofJson (j : Json) : Except ReadError Marks := Record.read layout ofRecord j

/-- Marks that stand alone in a text. -/
def outline : Json.Outline := .record [(["discard"], true, .boolean), (["remove"], true, .boolean)]

/-- The member of a node that asks for the card to be discarded. -/
def discardMember (m : Marks) : List (String × Json) :=
  if m.discard then [("discardAfter", .bool true)] else []

/-- The member of a node that asks for the card to be removed. -/
def removeMember (m : Marks) : List (String × Json) :=
  if m.remove then [("removeAfter", .bool true)] else []

end Marks

/-! ## Writing -/

/-- A basic effect as JSON. -/
def Basic.toJson (b : Basic) : Json :=
  .obj (optionalMember "cardId" .str b.cardId ++ [("description", .str b.description)]
    ++ b.marks.discardMember ++ b.marks.removeMember ++ [("type", Vocabulary.write b.kind)])

namespace Effect

mutual

/-- A tree as JSON. -/
def toJson : Effect → Json
  | .basic b => b.toJson
  | .conditional c t f m =>
    .obj ([("condition", c.toJson)] ++ m.discardMember ++ optionJson "ifFalse" f
      ++ [("ifTrue", toJson t)] ++ m.removeMember)
  | .multi bs d m =>
    .obj ([("branches", .arr (branchesJson bs))] ++ optionJson "default" d
      ++ m.discardMember ++ m.removeMember)
  | .choice d lo hi os m =>
    .obj ([("description", .str d)] ++ m.discardMember
      ++ [("maxChoices", countJson hi), ("minChoices", countJson lo),
        ("options", .arr (listJson os))] ++ m.removeMember)
  | .forEach t b d m =>
    .obj ([("description", .str d)] ++ m.discardMember ++ [("effect", toJson b)]
      ++ m.removeMember ++ [("target", .str t)])
  | .composite es d m =>
    .obj (optionalMember "description" .str d ++ m.discardMember
      ++ [("effects", .arr (listJson es))] ++ m.removeMember)
termination_by structural e => e

/-- The member of that name, if there is a tree for it. -/
def optionJson (name : String) : Option Effect → List (String × Json)
  | none => []
  | some e => [(name, toJson e)]
termination_by structural o => o

/-- Several trees as JSON. -/
def listJson : List Effect → List Json
  | [] => []
  | e :: rest => toJson e :: listJson rest
termination_by structural es => es

/-- Branches as JSON. -/
def branchesJson : List (Condition × Effect) → List Json
  | [] => []
  | (c, e) :: rest => .obj [("condition", c.toJson), ("effect", toJson e)] :: branchesJson rest
termination_by structural bs => bs

end

end Effect

/-- A branch as JSON. -/
def branchJson (b : Condition × Effect) : Json :=
  .obj [("condition", b.1.toJson), ("effect", b.2.toJson)]

/-! ## Reading -/

/-- What a value can be read as inside an effect tree. -/
structure Readings where
  value : Json
  effect : Except ReadError Effect
  effects : Except ReadError (List Effect)
  branch : Except ReadError (Condition × Effect)
  branches : Except ReadError (List (Condition × Effect))

namespace Record

/-- A field that is read without regard to effects. -/
def plainField {α : Type} (r : Record Readings) (layout : RecordLayout) (place : Nat)
    (name : String) (absent : Option α) (read : Json → Except ReadError α) : Ranked α :=
  r.field layout place [name] absent fun v => read v.value

/-- The marks of a node, the first of them at the given place. -/
def marksField (r : Record Readings) (layout : RecordLayout) (place : Nat) : Ranked Marks :=
  Marks.mk <$> r.plainField layout place "discardAfter" (some false) Json.readBool
    <*> r.plainField layout (place + 1) "removeAfter" (some false) Json.readBool

/-- A tree that may be missing. -/
def optionalEffect (r : Record Readings) (layout : RecordLayout) (place : Nat) (name : String) :
    Ranked (Option Effect) :=
  r.field layout place [name] (some none) fun v =>
    match v.value with
    | .null => .ok none
    | _ => v.effect.map some

end Record

namespace Shape

/-- All shapes, in the order in which they are tried. -/
def all : List Shape := [.basic, .conditional, .multi, .choice, .forEach, .composite]

/-- The fields of a node. -/
def layout : Shape → RecordLayout
  | .basic => ⟨"BasicEffect", 5⟩
  | .conditional => ⟨"ConditionalEffect", 5⟩
  | .multi => ⟨"MultiConditionalEffect", 4⟩
  | .choice => ⟨"ChoiceEffect", 6⟩
  | .forEach => ⟨"ForEachEffect", 5⟩
  | .composite => ⟨"CompositeEffect", 4⟩

/-- A node from its parts, before it is known that nothing follows the last of them. -/
def fields (s : Shape) (r : Record Readings) : Ranked Effect :=
  let l := s.layout
  match s with
  | .basic =>
    (fun kind cardId description marks => .basic ⟨kind, cardId, description, marks⟩)
      <$> r.plainField l 0 "type" none Vocabulary.read
      <*> r.plainField l 1 "cardId" (some none) (Json.readOption Json.readString)
      <*> r.plainField l 2 "description" none Json.readString
      <*> r.marksField l 3
  | .conditional =>
    Effect.conditional
      <$> r.plainField l 0 "condition" none Condition.ofJson
      <*> r.field l 1 ["ifTrue"] none Readings.effect
      <*> r.optionalEffect l 2 "ifFalse"
      <*> r.marksField l 3
  | .multi =>
    Effect.multi
      <$> r.field l 0 ["branches"] none Readings.branches
      <*> r.optionalEffect l 1 "default"
      <*> r.marksField l 2
  | .choice =>
    Effect.choice
      <$> r.plainField l 0 "description" (some "") Json.readString
      <*> r.plainField l 1 "minChoices" (some 1) Json.readUInt32
      <*> r.plainField l 2 "maxChoices" (some 1) Json.readUInt32
      <*> r.field l 3 ["options"] none Readings.effects
      <*> r.marksField l 4
  | .forEach =>
    Effect.forEach
      <$> r.plainField l 0 "target" none Json.readString
      <*> r.field l 1 ["effect"] none Readings.effect
      <*> r.plainField l 2 "description" none Json.readString
      <*> r.marksField l 3
  | .composite =>
    Effect.composite
      <$> r.field l 0 ["effects"] none Readings.effects
      <*> r.plainField l 1 "description" (some none) (Json.readOption Json.readString)
      <*> r.marksField l 2

/-- A node of the shape from the parts of a record. -/
def ofRecord (s : Shape) (r : Record Readings) : Ranked Effect := s.fields r <* r.closed s.layout

end Shape

namespace Readings

/-- What a value that is no node is not. -/
def noNode : ReadError :=
  .noShape "an effect node (basic, conditional, multi-conditional, choice, for-each or composite)"

/-- The node of the first of the shapes that the record can be read as. -/
def firstShape (r : Record Readings) : List Shape → Except ReadError Effect
  | [] => .error noNode
  | s :: rest =>
    match s.ofRecord r with
    | .ok e => .ok e
    | .fault _ _ => firstShape r rest

/-- The fields of a branch. -/
def branchLayout : RecordLayout := ⟨"Branch", 2⟩

/-- A branch from the parts of a record. -/
def branchOfRecord (r : Record Readings) : Ranked (Condition × Effect) :=
  Prod.mk <$> r.plainField branchLayout 0 "condition" none Condition.ofJson
    <*> r.field branchLayout 1 ["effect"] none effect <* r.closed branchLayout

/-- The items of a list, of which each has been read beforehand; the first fault is the one
reported. -/
def all {α : Type} : List (Except ReadError α) → Except ReadError (List α)
  | [] => .ok []
  | .ok a :: rest => (all rest).map (a :: ·)
  | .error e :: _ => .error e

/-- What a value can be read as, given what its parts can be read as. -/
def ofParts (j : Json) (parts : Option (Record Readings)) : Readings where
  value := j
  effect := match parts with
    | some r => firstShape r Shape.all
    | none => .error noNode
  effects := match parts with
    | some (.placed items) => all (items.map effect)
    | _ => .error (.invalidType j .sequence)
  branch := match parts with
    | some r => (branchOfRecord r).run
    | none => .error (.invalidType j (.record branchLayout.name))
  branches := match parts with
    | some (.placed items) => all (items.map branch)
    | _ => .error (.invalidType j .sequence)

/-- What a value can be read as. -/
def ofJson (j : Json) : Readings := j.fold ofParts

theorem ofJson_eq (j : Json) : ofJson j = ofParts j (j.parts?.map (Record.map ofJson)) :=
  Json.fold_eq ofParts j

end Readings

/-- A tree from JSON. -/
def Effect.ofJson (j : Json) : Except ReadError Effect := (Readings.ofJson j).effect

/-- A tree whose root has a given shape, from JSON. -/
def Shape.ofJson (s : Shape) (j : Json) : Except ReadError Effect :=
  Record.read s.layout (fun r => s.ofRecord (r.map Readings.ofJson)) j

/-- A branch from JSON. -/
def branchOfJson (j : Json) : Except ReadError (Condition × Effect) := (Readings.ofJson j).branch

/-! ## Texts -/

/-- A tree in a text. It is read to its end before its shape is decided. -/
def Effect.outline : Json.Outline := .checked fun j => (Effect.ofJson j).isOk

/-- A branch in a text. -/
def branchOutline : Json.Outline :=
  .record [(["condition"], true, Condition.outline), (["effect"], true, Effect.outline)]

/-- The marks of a node in a text. -/
def Marks.nodeOutlines : List (List String × Bool × Json.Outline) :=
  [(["discardAfter"], false, .boolean), (["removeAfter"], false, .boolean)]

/-- A tree whose root has a given shape, in a text. -/
def Shape.outline (s : Shape) : Json.Outline :=
  let count : Json.Outline := .integer 0 (2 ^ 32 - 1)
  let own : List (List String × Bool × Json.Outline) := match s with
    | .basic => [
      (["type"], true, .name (Vocabulary.names EffectKind)),
      (["cardId"], false, .optional .text),
      (["description"], true, .text)]
    | .conditional => [
      (["condition"], true, Condition.outline),
      (["ifTrue"], true, Effect.outline),
      (["ifFalse"], false, .optional Effect.outline)]
    | .multi => [
      (["branches"], true, .list branchOutline),
      (["default"], false, .optional Effect.outline)]
    | .choice => [
      (["description"], false, .text),
      (["minChoices"], false, count),
      (["maxChoices"], false, count),
      (["options"], true, .list Effect.outline)]
    | .forEach => [
      (["target"], true, .text),
      (["effect"], true, Effect.outline),
      (["description"], true, .text)]
    | .composite => [
      (["effects"], true, .list Effect.outline),
      (["description"], false, .optional .text)]
  .record (own ++ Marks.nodeOutlines)

/-! ## Small laws -/

theorem Readings.value_ofJson (j : Json) : (Readings.ofJson j).value = j := by
  rw [ofJson_eq]
  rfl

theorem Effect.listJson_eq (es : List Effect) : Effect.listJson es = es.map Effect.toJson := by
  induction es with
  | nil => rfl
  | cons e rest ih => simp [listJson, ih]

theorem Effect.branchesJson_eq (bs : List (Condition × Effect)) :
    Effect.branchesJson bs = bs.map branchJson := by
  induction bs with
  | nil => rfl
  | cons b rest ih => simp [branchesJson, branchJson, ih]

end CityCards
