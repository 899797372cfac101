import CityCards.City.StateJson
import CityCards.Json.Path
import CityCards.Proofs.City.Alike
import CityCards.Proofs.Json.Fields
import Mathlib.Data.List.Nodup

/-!
# States are read back

A ledger is read back from its entries, and a set of names from its members, in whatever order they
are listed. So a state is read back from what it is saved as, with the entries that it had and no
others, and states that are saved alike are equal. In particular an entry of zero is not lost.

Main definitions:
* `GameState.listed`: a state as JSON, with the sets of names listed in some order.
* `GameState.SavedAs`: what a state may be saved as.

Results:
* `Ledger.ofJson_of_perm`, `NameSet.ofJson_of_perm`: the order of entries and names does not matter.
* `Ledger.find?_members`: an entry is a member under the name of what it is for.
* `GameState.ofJson_of_savedAs`: a state is read back.
* `GameState.saved_faithfully`: what that means for telling states apart.
-/

namespace CityCards

/-! ## Ledgers -/

namespace Ledger

section

variable {κ α : Type} [Vocabulary κ] (write : α → Json)

/-- An entry as a member of an object. -/
def member (e : κ × α) : String × Json := (Vocabulary.name e.1, write e.2)

variable {write}

theorem insertMember_member (es : List (κ × α)) (e : κ × α) (h : e.1 ∉ es.map Prod.fst) :
    ∃ es' : List (κ × α),
      Json.insertMember (Vocabulary.name e.1) (write e.2) (es.map (member write)) =
        es'.map (member write) ∧ es'.Perm (e :: es) := by
  induction es with
  | nil => exact ⟨[e], rfl, .refl _⟩
  | cons d rest ih =>
    rw [List.map_cons, List.mem_cons, not_or] at h
    have hname : Vocabulary.name e.1 ≠ Vocabulary.name d.1 :=
      fun heq => h.1 (Vocabulary.name_injective heq)
    rw [List.map_cons, member, Json.insertMember]
    by_cases hlt : Vocabulary.name e.1 < Vocabulary.name d.1
    · rw [if_pos hlt]
      exact ⟨e :: d :: rest, rfl, .refl _⟩
    · obtain ⟨es', heq, hperm⟩ := ih h.2
      rw [if_neg hlt, if_neg hname, heq]
      exact ⟨d :: es', rfl, (hperm.cons d).trans (.swap e d rest)⟩

theorem find?_map_member {es : List (κ × α)} (hn : (es.map Prod.fst).Nodup) {k : κ} {a : α}
    (h : (k, a) ∈ es) :
    Json.find? (Vocabulary.name k) (es.map (member write)) = some (write a) := by
  induction es with
  | nil => cases h
  | cons e rest ih =>
    rw [List.map_cons, List.nodup_cons] at hn
    rw [List.map_cons, member, Json.find?]
    rcases List.mem_cons.mp h with rfl | hrest
    · exact if_pos rfl
    · have hne : Vocabulary.name e.1 ≠ Vocabulary.name k := by
        intro heq
        exact hn.1 (List.mem_map.mpr ⟨(k, a), hrest, (Vocabulary.name_injective heq).symm⟩)
      rw [if_neg hne, ih hn.2 hrest]

end

variable {κ α : Type} [Vocabulary κ] [DecidableEq κ] {l : Ledger κ α} {es : List (κ × α)}

theorem mem_entries_iff {k : κ} {a : α} : (k, a) ∈ l.entries ↔ l.get? k = some a := by
  rw [entries, List.mem_filterMap]
  constructor
  · rintro ⟨j, -, hj⟩
    obtain ⟨b, hb, heq⟩ := Option.map_eq_some_iff.mp hj
    cases heq
    exact hb
  · exact fun h => ⟨k, Vocabulary.mem_all k, by rw [h]; rfl⟩

theorem entries_nodup (l : Ledger κ α) : (l.entries.map Prod.fst).Nodup := by
  have hsub : (l.entries.map Prod.fst).Sublist Vocabulary.all := by
    rw [entries]
    induction (Vocabulary.all : List κ) with
    | nil => exact .slnil
    | cons k rest ih =>
      rw [List.filterMap_cons]
      cases l.get? k with
      | none => exact ih.cons k
      | some a => exact ih.cons_cons k
  exact Vocabulary.all_nodup.sublist hsub

/-- The ledger with all these entries made, one after the other. -/
def enter (l : Ledger κ α) (es : List (κ × α)) : Ledger κ α := es.foldl (fun l e => l.set e.1 e.2) l

theorem get?_enter_of_not_mem (l : Ledger κ α) {k : κ} (h : k ∉ es.map Prod.fst) :
    (l.enter es).get? k = l.get? k := by
  induction es generalizing l with
  | nil => rfl
  | cons e rest ih =>
    rw [List.map_cons, List.mem_cons, not_or] at h
    rw [enter, List.foldl_cons, ← enter, ih _ h.2, get?_set_of_ne l e.2 (Ne.symm h.1)]

theorem get?_enter_of_mem (l : Ledger κ α) (hn : (es.map Prod.fst).Nodup) {k : κ} {a : α}
    (h : (k, a) ∈ es) : (l.enter es).get? k = some a := by
  induction es generalizing l with
  | nil => cases h
  | cons e rest ih =>
    rw [List.map_cons, List.nodup_cons] at hn
    rw [enter, List.foldl_cons, ← enter]
    rcases List.mem_cons.mp h with rfl | hrest
    · rw [get?_enter_of_not_mem _ hn.1, get?_set_self]
    · exact ih _ hn.2 hrest

/-- To make all entries of a ledger, in whatever order, gives the ledger. -/
theorem enter_of_perm (h : es.Perm l.entries) : empty.enter es = l := by
  have hn : (es.map Prod.fst).Nodup := (h.map Prod.fst).nodup_iff.mpr l.entries_nodup
  refine ext_get? fun k => ?_
  cases hk : l.get? k with
  | some a => exact get?_enter_of_mem empty hn (h.mem_iff.mpr (mem_entries_iff.mpr hk))
  | none =>
    have hnot : k ∉ es.map Prod.fst := by
      intro hmem
      obtain ⟨⟨j, a⟩, he, rfl⟩ := List.mem_map.mp hmem
      rw [mem_entries_iff.mp (h.mem_iff.mp he)] at hk
      cases hk
    rw [get?_enter_of_not_mem empty hnot, get?_empty]

section

variable {write : α → Json} {read : Json → Except ReadError α}

theorem enterMembers_eq (hread : ∀ a, read (write a) = .ok a) (l : Ledger κ α)
    (es : List (κ × α)) : enterMembers read l (es.map (member write)) = .ok (l.enter es) := by
  induction es generalizing l with
  | nil => rfl
  | cons e rest ih =>
    rw [List.map_cons, member, enterMembers, Vocabulary.parse?_name]
    simp only [hread]
    exact ih (l.set e.1 e.2)

/-- A ledger is read from its entries in any order. -/
theorem ofJson_of_perm (hread : ∀ a, read (write a) = .ok a) (h : es.Perm l.entries) :
    ofJson read (.obj (es.map (member write))) = .ok l := by
  rw [ofJson, enterMembers_eq hread, enter_of_perm h]

/-- The members of a ledger are its entries in some order. -/
theorem exists_members_eq (write : α → Json) (l : Ledger κ α) :
    ∃ es : List (κ × α), l.members write = es.map (member write) ∧ es.Perm l.entries := by
  -- The members inserted so far are those of `done`, which is in the order of the names.
  have hstep (done es : List (κ × α)) (hn : ((done ++ es).map Prod.fst).Nodup) :
      ∃ es' : List (κ × α),
        es.foldl (fun ms e => Json.insertMember (Vocabulary.name e.1) (write e.2) ms)
          (done.map (member write)) = es'.map (member write) ∧ es'.Perm (done ++ es) := by
    induction es generalizing done with
    | nil => exact ⟨done, rfl, by rw [List.append_nil]⟩
    | cons e rest ih =>
      have hmiddle : (done ++ e :: rest).Perm (e :: done ++ rest) := List.perm_middle
      have hn' := (hmiddle.map Prod.fst).nodup_iff.mp hn
      have hnot : e.1 ∉ done.map Prod.fst := by
        rw [List.cons_append, List.map_cons, List.nodup_cons, List.map_append,
          List.mem_append] at hn'
        exact fun hmem => hn'.1 (.inl hmem)
      obtain ⟨done', heq, hperm⟩ := insertMember_member done e hnot
      have hlonger : (done' ++ rest).Perm (e :: done ++ rest) := hperm.append_right rest
      obtain ⟨es', heq', hperm'⟩ := ih done' ((hlonger.map Prod.fst).nodup_iff.mpr hn')
      exact ⟨es', by rw [List.foldl_cons, heq, heq'], hperm'.trans (hlonger.trans hmiddle.symm)⟩
  exact hstep [] l.entries l.entries_nodup

theorem ofJson_toJson (hread : ∀ a, read (write a) = .ok a) (l : Ledger κ α) :
    ofJson read (l.toJson write) = .ok l := by
  obtain ⟨es, heq, hperm⟩ := l.exists_members_eq write
  rw [toJson, heq, ofJson_of_perm hread hperm]

/-- Under a name that is in the vocabulary stands what is entered for its member, and nothing if
nothing is entered. There are no members under other names. -/
theorem find?_members (l : Ledger κ α) (s : String) :
    Json.find? s (l.members write) = ((Vocabulary.parse? s).bind l.get?).map write := by
  obtain ⟨es, heq, hperm⟩ := l.exists_members_eq write
  have hn : (es.map Prod.fst).Nodup := (hperm.map Prod.fst).nodup_iff.mpr l.entries_nodup
  rw [heq]
  cases hs : (Vocabulary.parse? s).bind l.get? with
  | some a =>
    obtain ⟨k, hk, ha⟩ := Option.bind_eq_some_iff.mp hs
    rw [← Vocabulary.parse?_eq_some_iff.mp hk]
    exact find?_map_member hn (hperm.mem_iff.mpr (mem_entries_iff.mpr ha))
  | none =>
    refine Json.find?_eq_none_iff.mpr fun hmem => ?_
    rw [List.map_map] at hmem
    obtain ⟨⟨k, a⟩, he, rfl⟩ := List.mem_map.mp hmem
    have ha : l.get? k = some a := mem_entries_iff.mp (hperm.mem_iff.mp he)
    have hk : Vocabulary.parse? ((Prod.fst ∘ member write) (k, a)) = some k :=
      Vocabulary.parse?_name k
    rw [hk, Option.bind_some, ha] at hs
    cases hs

end

theorem ne_set_of_get?_eq_none {k : κ} (h : l.get? k = none) (a : α) : l ≠ l.set k a := by
  intro heq
  rw [heq, get?_set_self] at h
  cases h

end Ledger

/-! ## Sets of names -/

namespace NameSet

theorem contains_foldl_insert (names : List String) (a : NameSet) (s : String) :
    (names.foldl (fun a s => a.insert s) a).contains s = (names.contains s || a.contains s) := by
  induction names generalizing a with
  | nil => rfl
  | cons t rest ih =>
    rw [List.foldl_cons, ih, contains_insert, List.contains_cons, Bool.or_left_comm, Bool.or_assoc]

theorem ofList_of_perm {a : NameSet} {names : List String} (h : names.Perm a.names) :
    ofList names = a := by
  refine ext_contains fun s => ?_
  rw [ofList, contains_foldl_insert, contains_empty, Bool.or_false, contains, Bool.eq_iff_iff,
    List.contains_iff_mem, List.contains_iff_mem]
  exact h.mem_iff

/-- A set is read from its members in any order. -/
theorem ofJson_of_perm {a : NameSet} {names : List String} (h : names.Perm a.names) :
    ofJson (.arr (names.map .str)) = .ok a := by
  have hread : Json.readList Json.readString (.arr (names.map .str)) = .ok names :=
    Json.readItems_map fun _ _ => rfl
  rw [ofJson, hread, Except.map, ofList_of_perm h]

end NameSet

/-! ## States -/

namespace GameState

/-- The state as JSON, with the names of the buildings and of the laws listed like this. -/
def listed (g : GameState) (buildings laws : List String) : Json :=
  .obj [
    ("buildings", .arr (buildings.map .str)),
    ("citizens", g.citizens.toJson countJson),
    ("discontentTokens", g.discontentTokens.toJson TokenCount.toJson),
    ("hopeTokens", g.hopeTokens.toJson TokenCount.toJson),
    ("hunger", levelJson g.hunger),
    ("laws", .arr (laws.map .str)),
    ("resources", g.resources.toJson countJson),
    ("roundData", g.roundData.toJson),
    ("stress", levelJson g.stress)]

/-- What a state may be saved as: its JSON up to the order in which sets are listed. -/
def SavedAs (g : GameState) (j : Json) : Prop :=
  ∃ buildings laws : List String,
    buildings.Perm g.buildings.names ∧ laws.Perm g.laws.names ∧ j = g.listed buildings laws

theorem savedAs_toJson (g : GameState) : g.SavedAs g.toJson :=
  ⟨g.buildings.names, g.laws.names, .refl _, .refl _, rfl⟩

/-- A state is read back from what it is saved as. -/
theorem ofJson_of_savedAs {g : GameState} {j : Json} (h : g.SavedAs j) : ofJson j = .ok g := by
  obtain ⟨buildings, laws, hbuildings, hlaws, rfl⟩ := h
  rw [ofJson, listed, Record.read_obj_eq_ok_iff]
  simp [ofRecord, Record.field, Record.occurrences, Record.closed, Ranked.ofExcept,
    Ledger.ofJson_toJson readUInt32_countJson, Ledger.ofJson_toJson TokenCount.ofJson_toJson,
    NameSet.ofJson_of_perm hbuildings, NameSet.ofJson_of_perm hlaws, readInt64_levelJson,
    RoundData.ofJson_toJson]
  rfl

theorem eq_of_savedAs {g h : GameState} {j : Json} (hg : g.SavedAs j) (hh : h.SavedAs j) :
    g = h := by
  have heq := (ofJson_of_savedAs hg).symm.trans (ofJson_of_savedAs hh)
  cases heq
  rfl

theorem exists_savedAs_iff {g h : GameState} : (∃ j, g.SavedAs j ∧ h.SavedAs j) ↔ g = h := by
  constructor
  · rintro ⟨j, hg, hh⟩
    exact eq_of_savedAs hg hh
  · rintro rfl
    exact ⟨g.toJson, g.savedAs_toJson, g.savedAs_toJson⟩

/-- The members of the ledgers in what a state is saved as are their entries. -/
theorem at?_of_savedAs {g : GameState} {j : Json} (h : g.SavedAs j) (s : String) :
    j.at? [.member "hopeTokens", .member s] =
        ((Vocabulary.parse? s).bind g.hopeTokens.get?).map TokenCount.toJson ∧
      j.at? [.member "discontentTokens", .member s] =
        ((Vocabulary.parse? s).bind g.discontentTokens.get?).map TokenCount.toJson ∧
      j.at? [.member "resources", .member s] =
        ((Vocabulary.parse? s).bind g.resources.get?).map countJson ∧
      j.at? [.member "citizens", .member s] =
        ((Vocabulary.parse? s).bind g.citizens.get?).map countJson := by
  obtain ⟨buildings, laws, -, -, rfl⟩ := h
  simp only [← Ledger.find?_members]
  refine ⟨?_, ?_, ?_, ?_⟩ <;>
    simp [listed, Json.at?_obj_member, Json.find?, Ledger.toJson, Json.at?_nil]

/-! ## Entries of zero -/

section

variable {g g' : GameState}

theorem told_apart (halike : g'.Alike g) (hne : g ≠ g') :
    g'.Alike g ∧ ¬∃ j, g.SavedAs j ∧ g'.SavedAs j :=
  ⟨halike, mt exists_savedAs_iff.mp hne⟩

theorem told_apart_setHope {k : HopeKind} (h : g.hopeTokens.get? k = none) :
    (g.setHope k .zero).Alike g ∧ ¬∃ j, g.SavedAs j ∧ (g.setHope k .zero).SavedAs j := by
  have hzero : g.hope k = .zero := by rw [hope, h, Option.getD_none]
  refine told_apart (hzero ▸ g.alike_setHope_self k) fun heq => ?_
  exact Ledger.ne_set_of_get?_eq_none h .zero (congrArg hopeTokens heq)

theorem told_apart_setDiscontent {k : DiscontentKind} (h : g.discontentTokens.get? k = none) :
    (g.setDiscontent k .zero).Alike g ∧
      ¬∃ j, g.SavedAs j ∧ (g.setDiscontent k .zero).SavedAs j := by
  have hzero : g.discontent k = .zero := by rw [discontent, h, Option.getD_none]
  refine told_apart (hzero ▸ g.alike_setDiscontent_self k) fun heq => ?_
  exact Ledger.ne_set_of_get?_eq_none h .zero (congrArg discontentTokens heq)

theorem told_apart_setResource {k : ResourceKind} (h : g.resources.get? k = none) :
    (g.setResource k 0).Alike g ∧ ¬∃ j, g.SavedAs j ∧ (g.setResource k 0).SavedAs j := by
  have hzero : g.resource k = 0 := by rw [resource, h, Option.getD_none]
  refine told_apart (hzero ▸ g.alike_setResource_self k) fun heq => ?_
  exact Ledger.ne_set_of_get?_eq_none h 0 (congrArg resources heq)

theorem told_apart_setCitizens {k : CitizenKind} (h : g.citizens.get? k = none) :
    (g.setCitizens k 0).Alike g ∧ ¬∃ j, g.SavedAs j ∧ (g.setCitizens k 0).SavedAs j := by
  have hzero : g.citizensOf k = 0 := by rw [citizensOf, h, Option.getD_none]
  refine told_apart (hzero ▸ g.alike_setCitizens_self k) fun heq => ?_
  exact Ledger.ne_set_of_get?_eq_none h 0 (congrArg citizens heq)

end

/-- States survive saving. In what order the sets are listed is of no account: the same state is
read back. The members of the saved ledgers are the entries of the ledgers, under the names of what
is entered. Two states may be saved alike exactly if they are equal. So an entry of zero, which
nothing that looks at counts can tell from no entry, is told apart in what is saved. -/
theorem saved_faithfully (g : GameState) :
    ofJson g.toJson = .ok g ∧
    g.SavedAs g.toJson ∧
    (∀ j, g.SavedAs j →
      ofJson j = .ok g ∧
      ∀ s,
        j.at? [.member "hopeTokens", .member s] =
          ((Vocabulary.parse? s).bind g.hopeTokens.get?).map TokenCount.toJson ∧
        j.at? [.member "discontentTokens", .member s] =
          ((Vocabulary.parse? s).bind g.discontentTokens.get?).map TokenCount.toJson ∧
        j.at? [.member "resources", .member s] =
          ((Vocabulary.parse? s).bind g.resources.get?).map countJson ∧
        j.at? [.member "citizens", .member s] =
          ((Vocabulary.parse? s).bind g.citizens.get?).map countJson) ∧
    (∀ h, (∃ j, g.SavedAs j ∧ h.SavedAs j) ↔ g = h) ∧
    (∀ h, g.toJson = h.toJson ↔ g = h) ∧
    (∀ k, g.hopeTokens.get? k = none →
      (g.setHope k .zero).Alike g ∧ ¬∃ j, g.SavedAs j ∧ (g.setHope k .zero).SavedAs j) ∧
    (∀ k, g.discontentTokens.get? k = none →
      (g.setDiscontent k .zero).Alike g ∧
      ¬∃ j, g.SavedAs j ∧ (g.setDiscontent k .zero).SavedAs j) ∧
    (∀ k, g.resources.get? k = none →
      (g.setResource k 0).Alike g ∧ ¬∃ j, g.SavedAs j ∧ (g.setResource k 0).SavedAs j) ∧
    (∀ k, g.citizens.get? k = none →
      (g.setCitizens k 0).Alike g ∧ ¬∃ j, g.SavedAs j ∧ (g.setCitizens k 0).SavedAs j) := by
  have hsame (h : GameState) : g.toJson = h.toJson ↔ g = h := by
    constructor
    · exact fun heq => eq_of_savedAs g.savedAs_toJson (heq ▸ h.savedAs_toJson)
    · exact congrArg toJson
  exact ⟨ofJson_of_savedAs g.savedAs_toJson, g.savedAs_toJson,
    fun j hj => ⟨ofJson_of_savedAs hj, at?_of_savedAs hj⟩, fun _ => exists_savedAs_iff, hsame,
    fun _ => told_apart_setHope, fun _ => told_apart_setDiscontent,
    fun _ => told_apart_setResource, fun _ => told_apart_setCitizens⟩

/-- A city with two buildings where wood has run out and coal has never been stocked. -/
def outOfWood : GameState :=
  ((empty.addBuilding "taller").addBuilding "enfermeria").setResource .wood 0

theorem saved_faithfully_outOfWood :
    outOfWood.SavedAs (outOfWood.listed ["taller", "enfermeria"] []) ∧
    ofJson (outOfWood.listed ["taller", "enfermeria"] []) = .ok outOfWood ∧
    outOfWood.toJson.at? [.member "resources", .member "madera"] = some (countJson 0) ∧
    outOfWood.toJson.at? [.member "resources", .member "carbon"] = none ∧
    outOfWood.resources.get? .coal = none ∧
    ¬∃ j, outOfWood.SavedAs j ∧ (outOfWood.setResource .coal 0).SavedAs j := by
  have hsaved : outOfWood.SavedAs (outOfWood.listed ["taller", "enfermeria"] []) :=
    ⟨_, _, by decide, by decide, rfl⟩
  have hcoal : outOfWood.resources.get? .coal = none := by decide
  obtain ⟨-, hown, hread, -, -, -, -, hresource, -⟩ := saved_faithfully outOfWood
  refine ⟨hsaved, (hread _ hsaved).1, ?_, ?_, hcoal, (hresource .coal hcoal).2⟩
  · exact ((hread _ hown).2 "madera").2.2.1
  · exact ((hread _ hown).2 "carbon").2.2.1

end GameState

end CityCards
