import CityCards.Effect.EffectJson
import CityCards.Effect.Place
import CityCards.Proofs.Json.Fields

/-!
# Reading nodes by their shape

A node is read part by part, and its parts have been read beforehand. Here reading is put in terms
of the parts themselves: for each shape, what it takes to read a node of the shape. It follows that
a shape cannot be read without its required members, and that all children of a node that is read
are readable.

Main definitions:
* `Shape.required`: the members without which a shape cannot be read.
* `Shape.HasSegment`: the segments that lead to children of nodes of a shape.

Results:
* `Shape.ofRecord_basic_iff` to `Shape.ofRecord_composite_iff`: what it takes to read a shape.
* `Shape.isSome_find?_of_ofRecord`: a shape that is read has its required members.
* `Effect.ofJson_child`: a child of a node that is read is readable, or `null`.
-/

namespace CityCards

/-! ## Parts that have been read -/

theorem Readings.all_map_effect (items : List Json) :
    all ((items.map ofJson).map effect) = Json.readItems Effect.ofJson items := by
  induction items with
  | nil => rfl
  | cons j rest ih =>
    rw [Json.readItems, ← ih]
    simp only [List.map_cons]
    show all ((Effect.ofJson j) :: _) = _
    cases Effect.ofJson j <;> rfl

theorem Readings.all_map_branch (items : List Json) :
    all ((items.map ofJson).map branch) = Json.readItems branchOfJson items := by
  induction items with
  | nil => rfl
  | cons j rest ih =>
    rw [Json.readItems, ← ih]
    simp only [List.map_cons]
    show all ((branchOfJson j) :: _) = _
    cases branchOfJson j <;> rfl

theorem Readings.effects_ofJson (j : Json) :
    (Readings.ofJson j).effects = Json.readList Effect.ofJson j := by
  rw [ofJson_eq]
  cases j <;> simp [ofParts, Json.parts?, Record.map, Json.readList, ← all_map_effect]

theorem Readings.branches_ofJson (j : Json) :
    (Readings.ofJson j).branches = Json.readList branchOfJson j := by
  rw [ofJson_eq]
  cases j <;> simp [ofParts, Json.parts?, Record.map, Json.readList, ← all_map_branch]

namespace Record

variable {α : Type} (r : Record Json) (l : RecordLayout) (place : Nat)

theorem plainField_map (name : String) (absent : Option α) (read : Json → Except ReadError α) :
    (r.map Readings.ofJson).plainField l place name absent read =
      r.field l place [name] absent read := by
  simp only [plainField, field_map, Readings.value_ofJson]

theorem optionalEffect_map (name : String) :
    (r.map Readings.ofJson).optionalEffect l place name =
      r.field l place [name] (some none) (Json.readOption Effect.ofJson) := by
  simp only [optionalEffect, field_map, Readings.value_ofJson]
  congr 1
  funext v
  cases v <;> rfl

theorem field_map_effect (names : List String) (absent : Option Effect) :
    (r.map Readings.ofJson).field l place names absent Readings.effect =
      r.field l place names absent Effect.ofJson :=
  field_map _ _ _ _ _ _ _

theorem field_map_effects (names : List String) (absent : Option (List Effect)) :
    (r.map Readings.ofJson).field l place names absent Readings.effects =
      r.field l place names absent (Json.readList Effect.ofJson) := by
  simp only [field_map, Readings.effects_ofJson]

theorem field_map_branches (names : List String) (absent : Option (List (Condition × Effect))) :
    (r.map Readings.ofJson).field l place names absent Readings.branches =
      r.field l place names absent (Json.readList branchOfJson) := by
  simp only [field_map, Readings.branches_ofJson]

/-- The marks of a node, the first of them at the given place, are read as these. -/
def HasMarks (m : Marks) : Prop :=
  r.field l place ["discardAfter"] (some false) Json.readBool = .ok m.discard ∧
    r.field l (place + 1) ["removeAfter"] (some false) Json.readBool = .ok m.remove

theorem marksField_map_eq_ok_iff (m : Marks) :
    (r.map Readings.ofJson).marksField l place = .ok m ↔ r.HasMarks l place m := by
  obtain ⟨discard, remove⟩ := m
  simp only [marksField, plainField_map, Ranked.seq_eq_ok_iff, Ranked.map_eq_ok_iff, HasMarks]
  constructor
  · rintro ⟨_, remove', ⟨discard', hd, rfl⟩, hr, he⟩
    cases he
    exact ⟨hd, hr⟩
  · rintro ⟨hd, hr⟩
    exact ⟨_, remove, ⟨discard, hd, rfl⟩, hr, rfl⟩

end Record

/-! ## What it takes to read a shape -/

namespace Shape

variable {r : Record Json} {e : Effect}

theorem ofRecord_eq_ok_iff (s : Shape) :
    s.ofRecord (r.map Readings.ofJson) = .ok e ↔
      s.fields (r.map Readings.ofJson) = .ok e ∧ r.closed s.layout = .ok () := by
  rw [ofRecord, Ranked.seqLeft_eq_ok_iff, Record.closed_map]
  exact and_congr_right fun _ => ⟨fun ⟨(), h⟩ => h, fun h => ⟨(), h⟩⟩

theorem ofRecord_basic_iff :
    basic.ofRecord (r.map Readings.ofJson) = .ok e ↔ ∃ k i d m, e = .basic ⟨k, i, d, m⟩ ∧
      r.field basic.layout 0 ["type"] none Vocabulary.read = .ok k ∧
      r.field basic.layout 1 ["cardId"] (some none) (Json.readOption Json.readString) = .ok i ∧
      r.field basic.layout 2 ["description"] none Json.readString = .ok d ∧
      r.HasMarks basic.layout 3 m ∧ r.closed basic.layout = .ok () := by
  simp only [ofRecord_eq_ok_iff, fields, Record.plainField_map, Ranked.seq_eq_ok_iff,
    Ranked.map_eq_ok_iff, Record.marksField_map_eq_ok_iff]
  constructor
  · rintro ⟨⟨_, m, ⟨_, d, ⟨_, i, ⟨k, hk, rfl⟩, hi, rfl⟩, hd, rfl⟩, hm, rfl⟩, hcl⟩
    exact ⟨k, i, d, m, rfl, hk, hi, hd, hm, hcl⟩
  · rintro ⟨k, i, d, m, rfl, hk, hi, hd, hm, hcl⟩
    exact ⟨⟨_, m, ⟨_, d, ⟨_, i, ⟨k, hk, rfl⟩, hi, rfl⟩, hd, rfl⟩, hm, rfl⟩, hcl⟩

theorem ofRecord_conditional_iff :
    conditional.ofRecord (r.map Readings.ofJson) = .ok e ↔ ∃ c t f m, e = .conditional c t f m ∧
      r.field conditional.layout 0 ["condition"] none Condition.ofJson = .ok c ∧
      r.field conditional.layout 1 ["ifTrue"] none Effect.ofJson = .ok t ∧
      r.field conditional.layout 2 ["ifFalse"] (some none) (Json.readOption Effect.ofJson) = .ok f ∧
      r.HasMarks conditional.layout 3 m ∧ r.closed conditional.layout = .ok () := by
  simp only [ofRecord_eq_ok_iff, fields, Record.plainField_map, Record.field_map_effect,
    Record.optionalEffect_map, Ranked.seq_eq_ok_iff, Ranked.map_eq_ok_iff,
    Record.marksField_map_eq_ok_iff]
  constructor
  · rintro ⟨⟨_, m, ⟨_, f, ⟨_, t, ⟨c, hc, rfl⟩, ht, rfl⟩, hf, rfl⟩, hm, rfl⟩, hcl⟩
    exact ⟨c, t, f, m, rfl, hc, ht, hf, hm, hcl⟩
  · rintro ⟨c, t, f, m, rfl, hc, ht, hf, hm, hcl⟩
    exact ⟨⟨_, m, ⟨_, f, ⟨_, t, ⟨c, hc, rfl⟩, ht, rfl⟩, hf, rfl⟩, hm, rfl⟩, hcl⟩

theorem ofRecord_multi_iff :
    multi.ofRecord (r.map Readings.ofJson) = .ok e ↔ ∃ bs d m, e = .multi bs d m ∧
      r.field multi.layout 0 ["branches"] none (Json.readList branchOfJson) = .ok bs ∧
      r.field multi.layout 1 ["default"] (some none) (Json.readOption Effect.ofJson) = .ok d ∧
      r.HasMarks multi.layout 2 m ∧ r.closed multi.layout = .ok () := by
  simp only [ofRecord_eq_ok_iff, fields, Record.field_map_branches, Record.optionalEffect_map,
    Ranked.seq_eq_ok_iff, Ranked.map_eq_ok_iff, Record.marksField_map_eq_ok_iff]
  constructor
  · rintro ⟨⟨_, m, ⟨_, d, ⟨bs, hbs, rfl⟩, hd, rfl⟩, hm, rfl⟩, hcl⟩
    exact ⟨bs, d, m, rfl, hbs, hd, hm, hcl⟩
  · rintro ⟨bs, d, m, rfl, hbs, hd, hm, hcl⟩
    exact ⟨⟨_, m, ⟨_, d, ⟨bs, hbs, rfl⟩, hd, rfl⟩, hm, rfl⟩, hcl⟩

theorem ofRecord_choice_iff :
    choice.ofRecord (r.map Readings.ofJson) = .ok e ↔ ∃ d lo hi os m, e = .choice d lo hi os m ∧
      r.field choice.layout 0 ["description"] (some "") Json.readString = .ok d ∧
      r.field choice.layout 1 ["minChoices"] (some 1) Json.readUInt32 = .ok lo ∧
      r.field choice.layout 2 ["maxChoices"] (some 1) Json.readUInt32 = .ok hi ∧
      r.field choice.layout 3 ["options"] none (Json.readList Effect.ofJson) = .ok os ∧
      r.HasMarks choice.layout 4 m ∧ r.closed choice.layout = .ok () := by
  simp only [ofRecord_eq_ok_iff, fields, Record.plainField_map, Record.field_map_effects,
    Ranked.seq_eq_ok_iff, Ranked.map_eq_ok_iff, Record.marksField_map_eq_ok_iff]
  constructor
  · rintro ⟨⟨_, m, ⟨_, os, ⟨_, hi, ⟨_, lo, ⟨d, hd, rfl⟩, hlo, rfl⟩, hhi, rfl⟩, hos, rfl⟩, hm, rfl⟩,
      hcl⟩
    exact ⟨d, lo, hi, os, m, rfl, hd, hlo, hhi, hos, hm, hcl⟩
  · rintro ⟨d, lo, hi, os, m, rfl, hd, hlo, hhi, hos, hm, hcl⟩
    exact ⟨⟨_, m, ⟨_, os, ⟨_, hi, ⟨_, lo, ⟨d, hd, rfl⟩, hlo, rfl⟩, hhi, rfl⟩, hos, rfl⟩, hm, rfl⟩,
      hcl⟩

theorem ofRecord_forEach_iff :
    forEach.ofRecord (r.map Readings.ofJson) = .ok e ↔ ∃ t b d m, e = .forEach t b d m ∧
      r.field forEach.layout 0 ["target"] none Json.readString = .ok t ∧
      r.field forEach.layout 1 ["effect"] none Effect.ofJson = .ok b ∧
      r.field forEach.layout 2 ["description"] none Json.readString = .ok d ∧
      r.HasMarks forEach.layout 3 m ∧ r.closed forEach.layout = .ok () := by
  simp only [ofRecord_eq_ok_iff, fields, Record.plainField_map, Record.field_map_effect,
    Ranked.seq_eq_ok_iff, Ranked.map_eq_ok_iff, Record.marksField_map_eq_ok_iff]
  constructor
  · rintro ⟨⟨_, m, ⟨_, d, ⟨_, b, ⟨t, ht, rfl⟩, hb, rfl⟩, hd, rfl⟩, hm, rfl⟩, hcl⟩
    exact ⟨t, b, d, m, rfl, ht, hb, hd, hm, hcl⟩
  · rintro ⟨t, b, d, m, rfl, ht, hb, hd, hm, hcl⟩
    exact ⟨⟨_, m, ⟨_, d, ⟨_, b, ⟨t, ht, rfl⟩, hb, rfl⟩, hd, rfl⟩, hm, rfl⟩, hcl⟩

theorem ofRecord_composite_iff :
    composite.ofRecord (r.map Readings.ofJson) = .ok e ↔ ∃ es d m, e = .composite es d m ∧
      r.field composite.layout 0 ["effects"] none (Json.readList Effect.ofJson) = .ok es ∧
      r.field composite.layout 1 ["description"] (some none) (Json.readOption Json.readString) =
        .ok d ∧
      r.HasMarks composite.layout 2 m ∧ r.closed composite.layout = .ok () := by
  simp only [ofRecord_eq_ok_iff, fields, Record.plainField_map, Record.field_map_effects,
    Ranked.seq_eq_ok_iff, Ranked.map_eq_ok_iff, Record.marksField_map_eq_ok_iff]
  constructor
  · rintro ⟨⟨_, m, ⟨_, d, ⟨es, hes, rfl⟩, hd, rfl⟩, hm, rfl⟩, hcl⟩
    exact ⟨es, d, m, rfl, hes, hd, hm, hcl⟩
  · rintro ⟨es, d, m, rfl, hes, hd, hm, hcl⟩
    exact ⟨⟨_, m, ⟨_, d, ⟨es, hes, rfl⟩, hd, rfl⟩, hm, rfl⟩, hcl⟩

theorem shape_of_ofRecord {s : Shape} (h : s.ofRecord (r.map Readings.ofJson) = .ok e) :
    e.shape = s := by
  cases s with
  | basic => obtain ⟨k, i, d, m, rfl, _⟩ := ofRecord_basic_iff.mp h; rfl
  | conditional => obtain ⟨c, t, f, m, rfl, _⟩ := ofRecord_conditional_iff.mp h; rfl
  | multi => obtain ⟨bs, d, m, rfl, _⟩ := ofRecord_multi_iff.mp h; rfl
  | choice => obtain ⟨d, lo, hi, os, m, rfl, _⟩ := ofRecord_choice_iff.mp h; rfl
  | forEach => obtain ⟨t, b, d, m, rfl, _⟩ := ofRecord_forEach_iff.mp h; rfl
  | composite => obtain ⟨es, d, m, rfl, _⟩ := ofRecord_composite_iff.mp h; rfl

/-! ## Required members -/

/-- The members without which a node of the shape cannot be read. -/
def required : Shape → List String
  | .basic => ["type", "description"]
  | .conditional => ["condition", "ifTrue"]
  | .multi => ["branches"]
  | .choice => ["options"]
  | .forEach => ["target", "effect", "description"]
  | .composite => ["effects"]

theorem isSome_find?_of_ofRecord {s : Shape} {ms : List (String × Json)}
    (h : s.ofRecord ((Record.named ms).map Readings.ofJson) = .ok e) :
    ∀ name ∈ s.required, (Json.find? name ms).isSome = true := by
  have hfield {α : Type} {l : RecordLayout} {place : Nat} {name : String}
      {read : Json → Except ReadError α} {a : α}
      (hf : (Record.named ms).field l place [name] none read = .ok a) :
      (Json.find? name ms).isSome = true := by
    obtain ⟨v, hv, _⟩ := Record.find?_of_field hf
    rw [hv]
    rfl
  cases s with
  | basic =>
    obtain ⟨k, i, d, m, -, hk, -, hd, -⟩ := ofRecord_basic_iff.mp h
    simpa [required] using ⟨hfield hk, hfield hd⟩
  | conditional =>
    obtain ⟨c, t, f, m, -, hc, ht, -⟩ := ofRecord_conditional_iff.mp h
    simpa [required] using ⟨hfield hc, hfield ht⟩
  | multi =>
    obtain ⟨bs, d, m, -, hbs, -⟩ := ofRecord_multi_iff.mp h
    simpa [required] using hfield hbs
  | choice =>
    obtain ⟨d, lo, hi, os, m, -, -, -, -, hos, -⟩ := ofRecord_choice_iff.mp h
    simpa [required] using hfield hos
  | forEach =>
    obtain ⟨t, b, d, m, -, ht, hb, hd, -⟩ := ofRecord_forEach_iff.mp h
    simpa [required] using ⟨hfield ht, hfield hb, hfield hd⟩
  | composite =>
    obtain ⟨es, d, m, -, hes, -⟩ := ofRecord_composite_iff.mp h
    simpa [required] using hfield hes

theorem mem_all (s : Shape) : s ∈ all := by
  cases s <;> decide

end Shape

/-! ## The shape that is taken -/

namespace Readings

variable {r : Record Readings} {e : Effect} {shapes : List Shape}

theorem exists_of_firstShape (h : firstShape r shapes = .ok e) :
    ∃ s ∈ shapes, s.ofRecord r = .ok e := by
  induction shapes with
  | nil => cases h
  | cons s rest ih =>
    rw [firstShape] at h
    cases hs : s.ofRecord r with
    | ok e' =>
      rw [hs] at h
      cases h
      exact ⟨s, List.mem_cons_self, hs⟩
    | fault rank error =>
      rw [hs] at h
      obtain ⟨s', hs', he⟩ := ih h
      exact ⟨s', List.mem_cons_of_mem _ hs', he⟩

/-- If a record can be read as one shape only, the order of the shapes does not matter. -/
theorem firstShape_of_unique {s : Shape} (hs : s ∈ shapes) (h : s.ofRecord r = .ok e)
    (hunique : ∀ s' e', s'.ofRecord r = .ok e' → s' = s) : firstShape r shapes = .ok e := by
  induction shapes with
  | nil => cases hs
  | cons s' rest ih =>
    rw [firstShape]
    cases hs' : s'.ofRecord r with
    | ok e' =>
      rw [hunique s' e' hs', h] at hs'
      cases hs'
      rfl
    | fault rank error =>
      rcases List.mem_cons.mp hs with rfl | hrest
      · rw [h] at hs'
        cases hs'
      · exact ih hrest

end Readings

theorem Effect.ofJson_obj (ms : List (String × Json)) :
    ofJson (.obj ms) = Readings.firstShape ((Record.named ms).map Readings.ofJson) Shape.all := by
  rw [ofJson, Readings.ofJson_eq]
  rfl

theorem Effect.ofRecord_shape_of_ofJson {ms : List (String × Json)} {e : Effect}
    (h : ofJson (.obj ms) = .ok e) :
    e.shape.ofRecord ((Record.named ms).map Readings.ofJson) = .ok e := by
  rw [ofJson_obj] at h
  obtain ⟨s, _, hs⟩ := Readings.exists_of_firstShape h
  rwa [Shape.shape_of_ofRecord hs]

/-! ## Children of a node that is read -/

theorem Json.readItems_getElem? {α : Type} {read : Json → Except ReadError α} {items : List Json}
    {as : List α} (h : readItems read items = .ok as) {i : Nat} {j : Json}
    (hj : items[i]? = some j) : ∃ a, read j = .ok a := by
  induction items generalizing as i with
  | nil => simp at hj
  | cons k rest ih =>
    rw [readItems] at h
    cases hk : read k with
    | error error => simp [hk] at h
    | ok a =>
      cases hrest : readItems read rest with
      | error error => simp [hk, hrest, Except.map] at h
      | ok bs =>
        cases i with
        | zero =>
          cases hj
          exact ⟨a, hk⟩
        | succ i => exact ih hrest (by simpa using hj)

theorem Json.exists_of_readList {α : Type} {read : Json → Except ReadError α} {j k : Json}
    {as : List α} {i : Nat} (h : readList read j = .ok as) (hk : j.at? [.item i] = some k) :
    ∃ a, read k = .ok a := by
  cases j with
  | arr items => exact readItems_getElem? h (by simpa [at?, child?, asItems?] using hk)
  | _ => cases h

theorem branchOfJson_obj_eq_ok_iff {ms : List (String × Json)} {c : Condition} {e : Effect} :
    branchOfJson (.obj ms) = .ok (c, e) ↔
      (Record.named ms).field Readings.branchLayout 0 ["condition"] none Condition.ofJson = .ok c ∧
        (Record.named ms).field Readings.branchLayout 1 ["effect"] none Effect.ofJson = .ok e := by
  have hparts : branchOfJson (.obj ms) =
      (Readings.branchOfRecord ((Record.named ms).map Readings.ofJson)).run := by
    rw [branchOfJson, Readings.ofJson_eq]
    rfl
  simp only [hparts, Ranked.run_eq_ok_iff, Readings.branchOfRecord, Ranked.seqLeft_eq_ok_iff,
    Ranked.seq_eq_ok_iff, Ranked.map_eq_ok_iff, Record.plainField_map, Record.field_map_effect,
    Record.closed_map]
  constructor
  · rintro ⟨⟨_, e', ⟨c', hc, rfl⟩, he, heq⟩, _⟩
    cases heq
    exact ⟨hc, he⟩
  · rintro ⟨hc, he⟩
    exact ⟨⟨_, e, ⟨c, hc, rfl⟩, he, rfl⟩, (), rfl⟩

theorem Json.eq_null_or_of_readOption {α : Type} {read : Json → Except ReadError α} {j : Json}
    {o : Option α} (h : readOption read j = .ok o) : j = .null ∨ ∃ a, read j = .ok a := by
  unfold readOption at h
  split at h
  · exact Or.inl rfl
  · cases hr : read j with
    | error error => simp [hr, Except.map] at h
    | ok a => exact Or.inr ⟨a, rfl⟩

/-- The segments that lead from nodes of the shape to their children. -/
def Shape.HasSegment : Shape → Segment → Prop
  | .conditional, .ifTrue => True
  | .conditional, .ifFalse => True
  | .multi, .branch _ => True
  | .multi, .default => True
  | .choice, .option _ => True
  | .forEach, .body => True
  | .composite, .member _ => True
  | _, _ => False

section

variable {ms : List (String × Json)} {l : RecordLayout} {place i : Nat} {name : String} {v : Json}

theorem Record.ofJson_of_list {es : List Effect}
    (h : (named ms).field l place [name] none (Json.readList Effect.ofJson) = .ok es)
    (hv : (Json.obj ms).at? [.member name, .item i] = some v) : ∃ e, Effect.ofJson v = .ok e := by
  rw [Json.at?_obj_member] at hv
  obtain ⟨items, hitems, hi⟩ := Option.bind_eq_some_iff.mp hv
  exact Json.exists_of_readList (read_of_field h List.mem_cons_self hitems) hi

theorem Record.ofJson_of_branches {bs : List (Condition × Effect)}
    (h : (named ms).field l place ["branches"] none (Json.readList branchOfJson) = .ok bs)
    (hv : (Json.obj ms).at? (Segment.branch i).path = some v) : ∃ e, Effect.ofJson v = .ok e := by
  rw [Segment.path, Json.at?_obj_member] at hv
  obtain ⟨items, hitems, hrest⟩ := Option.bind_eq_some_iff.mp hv
  obtain ⟨b, hb, hbv⟩ : ∃ b, items.at? [.item i] = some b ∧ b.at? [.member "effect"] = some v := by
    rw [← Option.bind_eq_some_iff, ← Json.at?_append]
    exact hrest
  obtain ⟨⟨c, e⟩, hce⟩ := Json.exists_of_readList (read_of_field h List.mem_cons_self hitems) hb
  cases b with
  | obj members =>
    have he := (branchOfJson_obj_eq_ok_iff.mp hce).2
    rw [Json.at?_obj_member] at hbv
    obtain ⟨w, hw, hwv⟩ := Option.bind_eq_some_iff.mp hbv
    cases hwv
    exact ⟨e, read_of_field he List.mem_cons_self hw⟩
  | _ => cases hbv

end

/-- Where a node that is read has a child, there is something that is read as a tree, or nothing. -/
theorem Effect.ofJson_child {ms : List (String × Json)} {e : Effect}
    (h : ofJson (.obj ms) = .ok e) {seg : Segment} (hseg : e.shape.HasSegment seg) {v : Json}
    (hv : (Json.obj ms).at? seg.path = some v) : v = .null ∨ ∃ c, ofJson v = .ok c := by
  have hr := ofRecord_shape_of_ofJson h
  have hmember {name : String} (hname : (Json.obj ms).at? [.member name] = some v) :
      Json.find? name ms = some v := by
    rw [Json.at?_obj_member] at hname
    obtain ⟨w, hw, hwv⟩ := Option.bind_eq_some_iff.mp hname
    cases hwv
    exact hw
  generalize e.shape = s at hr hseg
  cases s with
  | basic => cases seg <;> exact hseg.elim
  | conditional =>
    obtain ⟨c, t, f, m, -, -, ht, hf, -⟩ := Shape.ofRecord_conditional_iff.mp hr
    cases seg with
    | ifTrue =>
      exact Or.inr ⟨t, Record.read_of_field ht List.mem_cons_self (hmember hv)⟩
    | ifFalse =>
      have hread := Record.read_of_field hf List.mem_cons_self (hmember hv)
      exact Json.eq_null_or_of_readOption hread
    | _ => exact hseg.elim
  | multi =>
    obtain ⟨bs, d, m, -, hbs, hd, -⟩ := Shape.ofRecord_multi_iff.mp hr
    cases seg with
    | branch i => exact Or.inr (Record.ofJson_of_branches hbs hv)
    | default =>
      have hread := Record.read_of_field hd List.mem_cons_self (hmember hv)
      exact Json.eq_null_or_of_readOption hread
    | _ => exact hseg.elim
  | choice =>
    obtain ⟨d, lo, hi, os, m, -, -, -, -, hos, -⟩ := Shape.ofRecord_choice_iff.mp hr
    cases seg with
    | option i => exact Or.inr (Record.ofJson_of_list hos hv)
    | _ => exact hseg.elim
  | forEach =>
    obtain ⟨t, b, d, m, -, -, hb, -⟩ := Shape.ofRecord_forEach_iff.mp hr
    cases seg with
    | body =>
      exact Or.inr ⟨b, Record.read_of_field hb List.mem_cons_self (hmember hv)⟩
    | _ => exact hseg.elim
  | composite =>
    obtain ⟨es, d, m, -, hes, -⟩ := Shape.ofRecord_composite_iff.mp hr
    cases seg with
    | member i => exact Or.inr (Record.ofJson_of_list hes hv)
    | _ => exact hseg.elim

end CityCards
