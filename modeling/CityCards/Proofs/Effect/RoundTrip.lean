import CityCards.Proofs.Effect.Shapes

/-!
# Effect trees are read back

A node is written without a tag, but with all the members that its shape requires, and with no
others than those of its shape. Since no shape has all that another requires, a node that was
written can be read as its own shape only, whatever the order in which the shapes are tried.

Main definitions:
* `Effect.members`: the members that a node is written with.
* `Shape.memberNames`: the names that members of a node of the shape can have.

Results:
* `Effect.shape_of_ofRecord_members`: a written node can only be read as its own shape.
* `Effect.ofJson_toJson`: a tree is read back.
* `Effect.rereading_eq`: reading what was written gives the tree, each node in its own shape.
-/

namespace CityCards

/-! ## Written members -/

/-- The names that the members of a node of the shape can have. -/
def Shape.memberNames : Shape → List String
  | .basic => ["cardId", "description", "discardAfter", "removeAfter", "type"]
  | .conditional => ["condition", "discardAfter", "ifFalse", "ifTrue", "removeAfter"]
  | .multi => ["branches", "default", "discardAfter", "removeAfter"]
  | .choice =>
    ["description", "discardAfter", "maxChoices", "minChoices", "options", "removeAfter"]
  | .forEach => ["description", "discardAfter", "effect", "removeAfter", "target"]
  | .composite => ["description", "discardAfter", "effects", "removeAfter"]

/-- Every shape requires a member that nodes of no other shape have. -/
theorem Shape.eq_of_required_subset {s t : Shape} (h : ∀ name ∈ s.required, name ∈ t.memberNames) :
    s = t := by
  revert h
  cases s <;> cases t <;> decide

/-- Where all members could be those of a node of one shape, no other shape is read. -/
theorem Shape.eq_of_ofRecord {s t : Shape} {ms : List (String × Json)} {e : Effect}
    (hnames : ∀ name ∈ ms.map Prod.fst, name ∈ t.memberNames)
    (h : s.ofRecord ((Record.named ms).map Readings.ofJson) = .ok e) : s = t := by
  refine eq_of_required_subset fun name hname => hnames name ?_
  have hfound := isSome_find?_of_ofRecord h name hname
  by_contra hnot
  rw [Json.find?_eq_none_iff.mpr hnot] at hfound
  cases hfound

theorem Shape.memberNames_nodup (s : Shape) : s.memberNames.Nodup := by
  cases s <;> decide

namespace Effect

/-- The members that the root of a tree is written with. -/
def members : Effect → List (String × Json)
  | .basic b => optionalMember "cardId" .str b.cardId ++ [("description", .str b.description)]
    ++ b.marks.discardMember ++ b.marks.removeMember ++ [("type", Vocabulary.write b.kind)]
  | .conditional c t f m => [("condition", c.toJson)] ++ m.discardMember
    ++ optionalMember "ifFalse" toJson f ++ [("ifTrue", t.toJson)] ++ m.removeMember
  | .multi bs d m => [("branches", .arr (bs.map branchJson))] ++ optionalMember "default" toJson d
    ++ m.discardMember ++ m.removeMember
  | .choice d lo hi os m => [("description", .str d)] ++ m.discardMember
    ++ [("maxChoices", countJson hi), ("minChoices", countJson lo),
      ("options", .arr (os.map toJson))] ++ m.removeMember
  | .forEach t b d m => [("description", .str d)] ++ m.discardMember ++ [("effect", b.toJson)]
    ++ m.removeMember ++ [("target", .str t)]
  | .composite es d m => optionalMember "description" .str d ++ m.discardMember
    ++ [("effects", .arr (es.map toJson))] ++ m.removeMember

theorem optionJson_eq (name : String) (o : Option Effect) :
    optionJson name o = optionalMember name toJson o := by
  cases o <;> rfl

theorem toJson_eq (e : Effect) : e.toJson = .obj e.members := by
  cases e <;> simp [toJson, members, Basic.toJson, optionJson_eq, listJson_eq, branchesJson_eq]

end Effect

theorem map_fst_optionalMember {α : Type} (name : String) (write : α → Json) (o : Option α) :
    ((optionalMember name write o).map Prod.fst).Sublist [name] := by
  cases o <;> simp [optionalMember]

theorem Marks.map_fst_discardMember (m : Marks) :
    (m.discardMember.map Prod.fst).Sublist ["discardAfter"] := by
  unfold discardMember
  split <;> simp

theorem Marks.map_fst_removeMember (m : Marks) :
    (m.removeMember.map Prod.fst).Sublist ["removeAfter"] := by
  unfold removeMember
  split <;> simp

theorem Effect.map_fst_members (e : Effect) :
    (e.members.map Prod.fst).Sublist e.shape.memberNames := by
  cases e with
  | basic b =>
    simp only [members, List.map_append]
    exact ((((map_fst_optionalMember "cardId" _ _).append (.refl ["description"])).append
      b.marks.map_fst_discardMember).append b.marks.map_fst_removeMember).append (.refl ["type"])
  | conditional c t f m =>
    simp only [members, List.map_append]
    exact ((((List.Sublist.refl ["condition"]).append m.map_fst_discardMember).append
      (map_fst_optionalMember "ifFalse" _ f)).append (.refl ["ifTrue"])).append
      m.map_fst_removeMember
  | multi bs d m =>
    simp only [members, List.map_append]
    exact (((List.Sublist.refl ["branches"]).append (map_fst_optionalMember "default" _ d)).append
      m.map_fst_discardMember).append m.map_fst_removeMember
  | choice d lo hi os m =>
    simp only [members, List.map_append]
    exact (((List.Sublist.refl ["description"]).append m.map_fst_discardMember).append
      (.refl ["maxChoices", "minChoices", "options"])).append m.map_fst_removeMember
  | forEach t b d m =>
    simp only [members, List.map_append]
    exact ((((List.Sublist.refl ["description"]).append m.map_fst_discardMember).append
      (.refl ["effect"])).append m.map_fst_removeMember).append (.refl ["target"])
  | composite es d m =>
    simp only [members, List.map_append]
    exact (((map_fst_optionalMember "description" _ d).append m.map_fst_discardMember).append
      (.refl ["effects"])).append m.map_fst_removeMember

theorem Effect.members_nodup (e : Effect) : (e.members.map Prod.fst).Nodup :=
  e.shape.memberNames_nodup.sublist e.map_fst_members

/-! ## Members found -/

section

variable (name : String)

@[simp]
theorem find?_optionalMember {α : Type} (k : String) (write : α → Json) (o : Option α) :
    Json.find? name (optionalMember k write o) = if k = name then o.map write else none := by
  cases o <;> simp [optionalMember, Json.find?]

@[simp]
theorem Marks.find?_discardMember (m : Marks) :
    Json.find? name m.discardMember =
      if "discardAfter" = name then (if m.discard then some (.bool true) else Option.none)
      else Option.none := by
  unfold discardMember
  split <;> simp [Json.find?]

@[simp]
theorem Marks.find?_removeMember (m : Marks) :
    Json.find? name m.removeMember =
      if "removeAfter" = name then (if m.remove then some (.bool true) else Option.none)
      else Option.none := by
  unfold removeMember
  split <;> simp [Json.find?]

end

theorem Json.readString_str (s : String) : readString (.str s) = .ok s := rfl

theorem Json.readList_map {α : Type} {read : Json → Except ReadError α} {write : α → Json}
    {as : List α} (h : ∀ a ∈ as, read (write a) = .ok a) :
    readList read (.arr (as.map write)) = .ok as :=
  readItems_map h

namespace Record

variable {α : Type} {ms : List (String × Json)} {l : RecordLayout} {place : Nat} {name : String}
  {read : Json → Except ReadError α}

theorem field_of_find?_eq_some {absent : Option α} {v : Json} {a : α}
    (hn : (ms.map Prod.fst).Nodup) (hv : Json.find? name ms = some v) (hread : read v = .ok a) :
    (named ms).field l place [name] absent read = .ok a := by
  rw [field_eq_ok_iff hn, hv]
  exact hread

/-- What may be missing is read back if it is left out where it is missing. -/
theorem field_of_find?_eq_map {write : α → Json} {o : Option α} (hn : (ms.map Prod.fst).Nodup)
    (hv : Json.find? name ms = o.map write)
    (hread : ∀ a, o = some a → Json.readOption read (write a) = .ok (some a)) :
    (named ms).field l place [name] (some none) (Json.readOption read) = .ok o := by
  rw [field_eq_ok_iff hn, hv]
  cases o with
  | none => rfl
  | some a => exact hread a rfl

end Record

namespace Effect

theorem find?_discardAfter_members (e : Effect) :
    Json.find? "discardAfter" e.members = Json.find? "discardAfter" e.marks.discardMember := by
  cases e <;> simp [members, marks, Json.find?]

theorem find?_removeAfter_members (e : Effect) :
    Json.find? "removeAfter" e.members = Json.find? "removeAfter" e.marks.removeMember := by
  cases e <;> simp [members, marks, Json.find?]

theorem hasMarks_members (e : Effect) (l : RecordLayout) (place : Nat) :
    (Record.named e.members).HasMarks l place e.marks := by
  constructor
  · rw [Record.field_eq_ok_iff e.members_nodup, find?_discardAfter_members, Marks.discardMember]
    cases e.marks.discard <;> rfl
  · rw [Record.field_eq_ok_iff e.members_nodup, find?_removeAfter_members, Marks.removeMember]
    cases e.marks.remove <;> rfl

theorem shape_of_ofRecord_members {e e' : Effect} {s : Shape}
    (h : s.ofRecord ((Record.named e.members).map Readings.ofJson) = .ok e') : s = e.shape :=
  Shape.eq_of_ofRecord (fun _ hname => e.map_fst_members.subset hname) h

/-- A node that is read back as its own shape is read back. -/
theorem ofJson_toJson_of_ofRecord {e : Effect}
    (h : e.shape.ofRecord ((Record.named e.members).map Readings.ofJson) = .ok e) :
    ofJson e.toJson = .ok e := by
  rw [toJson_eq, ofJson_obj]
  exact Readings.firstShape_of_unique e.shape.mem_all h fun _ _ hs => shape_of_ofRecord_members hs

theorem toJson_ne_null (e : Effect) : e.toJson ≠ .null := by
  simp [toJson_eq]

theorem readOption_toJson {e : Effect} (h : ofJson e.toJson = .ok e) :
    Json.readOption ofJson e.toJson = .ok (some e) :=
  Json.readOption_write e.toJson_ne_null h

theorem branchOfJson_branchJson {b : Condition × Effect} (h : ofJson b.2.toJson = .ok b.2) :
    branchOfJson (branchJson b) = .ok b := by
  have hn : ([("condition", b.1.toJson), ("effect", b.2.toJson)].map Prod.fst).Nodup := by simp
  rw [branchJson, branchOfJson_obj_eq_ok_iff]
  exact ⟨Record.field_of_find?_eq_some hn rfl b.1.ofJson_toJson,
    Record.field_of_find?_eq_some hn rfl h⟩

/-! ## Reading back -/

mutual

/-- A tree is read back. -/
theorem ofJson_toJson (e : Effect) : ofJson e.toJson = .ok e := by
  have hn := e.members_nodup
  have hmarks := e.hasMarks_members
  -- No other shape can get in the way; it remains to read every member of the shape itself.
  apply ofJson_toJson_of_ofRecord
  cases e with
  | basic b =>
    obtain ⟨k, i, d, m⟩ := b
    refine Shape.ofRecord_basic_iff.mpr ⟨k, i, d, m, rfl, ?_, ?_, ?_, hmarks _ _, rfl⟩
    · exact Record.field_of_find?_eq_some hn (by simp [members, Json.find?])
        (Vocabulary.read_write k)
    · exact Record.field_of_find?_eq_map hn (by simp [members, Json.find?]) fun s _ =>
        Json.readOption_str s
    · exact Record.field_of_find?_eq_some hn (by simp [members, Json.find?])
        (Json.readString_str _)
  | conditional c t f m =>
    refine Shape.ofRecord_conditional_iff.mpr ⟨c, t, f, m, rfl, ?_, ?_, ?_, hmarks _ _, rfl⟩
    · exact Record.field_of_find?_eq_some hn (by simp [members, Json.find?]) c.ofJson_toJson
    · exact Record.field_of_find?_eq_some hn (by simp [members, Json.find?]) (ofJson_toJson t)
    · exact Record.field_of_find?_eq_map hn (by simp [members, Json.find?]) fun e he =>
        readOption_toJson (ofJson_toJson_option f e he)
  | multi bs d m =>
    refine Shape.ofRecord_multi_iff.mpr ⟨bs, d, m, rfl, ?_, ?_, hmarks _ _, rfl⟩
    · exact Record.field_of_find?_eq_some hn (by simp [members, Json.find?])
        (Json.readList_map fun b hb => branchOfJson_branchJson (ofJson_toJson_branches bs b hb))
    · exact Record.field_of_find?_eq_map hn (by simp [members, Json.find?]) fun e he =>
        readOption_toJson (ofJson_toJson_option d e he)
  | choice d lo hi os m =>
    refine Shape.ofRecord_choice_iff.mpr ⟨d, lo, hi, os, m, rfl, ?_, ?_, ?_, ?_, hmarks _ _, rfl⟩
    · exact Record.field_of_find?_eq_some hn (by simp [members, Json.find?])
        (Json.readString_str _)
    · exact Record.field_of_find?_eq_some hn (by simp [members, Json.find?])
        (readUInt32_countJson lo)
    · exact Record.field_of_find?_eq_some hn (by simp [members, Json.find?])
        (readUInt32_countJson hi)
    · exact Record.field_of_find?_eq_some hn (by simp [members, Json.find?])
        (Json.readList_map (ofJson_toJson_list os))
  | forEach t b d m =>
    refine Shape.ofRecord_forEach_iff.mpr ⟨t, b, d, m, rfl, ?_, ?_, ?_, hmarks _ _, rfl⟩
    · exact Record.field_of_find?_eq_some hn (by simp [members, Json.find?])
        (Json.readString_str _)
    · exact Record.field_of_find?_eq_some hn (by simp [members, Json.find?]) (ofJson_toJson b)
    · exact Record.field_of_find?_eq_some hn (by simp [members, Json.find?])
        (Json.readString_str _)
  | composite es d m =>
    refine Shape.ofRecord_composite_iff.mpr ⟨es, d, m, rfl, ?_, ?_, hmarks _ _, rfl⟩
    · exact Record.field_of_find?_eq_some hn (by simp [members, Json.find?])
        (Json.readList_map (ofJson_toJson_list es))
    · exact Record.field_of_find?_eq_map hn (by simp [members, Json.find?]) fun s _ =>
        Json.readOption_str s
termination_by structural e

theorem ofJson_toJson_option (o : Option Effect) : ∀ e, o = some e → ofJson e.toJson = .ok e := by
  cases o with
  | none => simp
  | some e =>
    intro e' he
    cases he
    exact ofJson_toJson e
termination_by structural o

theorem ofJson_toJson_list (es : List Effect) : ∀ e ∈ es, ofJson e.toJson = .ok e := by
  cases es with
  | nil => simp
  | cons e rest => exact List.forall_mem_cons.mpr ⟨ofJson_toJson e, ofJson_toJson_list rest⟩
termination_by structural es

theorem ofJson_toJson_branches (bs : List (Condition × Effect)) :
    ∀ b ∈ bs, ofJson b.2.toJson = .ok b.2 := by
  cases bs with
  | nil => simp
  | cons b rest =>
    obtain ⟨c, e⟩ := b
    exact List.forall_mem_cons.mpr ⟨ofJson_toJson e, ofJson_toJson_branches rest⟩
termination_by structural bs

end

/-- The value that a tree is written as can be read as one shape only, that of the root. -/
theorem isOk_shape_ofJson_toJson_iff (e : Effect) (s : Shape) :
    (s.ofJson e.toJson).isOk = true ↔ s = e.shape := by
  have hread {e' : Effect} : s.ofJson e.toJson = .ok e' ↔
      s.ofRecord ((Record.named e.members).map Readings.ofJson) = .ok e' := by
    rw [toJson_eq]
    exact Record.read_obj_eq_ok_iff
  constructor
  · intro h
    cases hs : s.ofJson e.toJson with
    | ok e' => exact shape_of_ofRecord_members (hread.mp hs)
    | error error =>
      rw [hs] at h
      cases h
  · rintro rfl
    have h := e.ofJson_toJson
    rw [toJson_eq] at h
    rw [hread.mpr (ofRecord_shape_of_ofJson h)]
    rfl

/-- Reading what was written gives the tree itself, and as no other shape could its root be read.
What was read from any value is thus read again from what it is written as. -/
theorem rereading_eq (e : Effect) (j : Json) :
    ofJson e.toJson = .ok e ∧ (∀ s : Shape, (s.ofJson e.toJson).isOk = true ↔ s = e.shape) ∧
      (ofJson j >>= fun e' => ofJson e'.toJson) = ofJson j := by
  refine ⟨e.ofJson_toJson, e.isOk_shape_ofJson_toJson_iff, ?_⟩
  cases ofJson j with
  | error error => rfl
  | ok e' => exact e'.ofJson_toJson

end Effect

end CityCards
