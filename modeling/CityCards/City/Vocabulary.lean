import CityCards.Json.Read

/-!
# Vocabularies

A vocabulary is a finite type whose members have distinct names. Cards refer to tokens, resources
and citizens by these names, and they are the names under which values of such types are written.

Results:
* `Vocabulary.parse?_eq_some_iff`: a name is looked up exactly by being the name of a member.
* `Vocabulary.read_write`: a written member is read back.
-/

namespace CityCards

/-- A finite type whose members have distinct names. -/
class Vocabulary (κ : Type) where
  all : List κ
  name : κ → String
  mem_all : ∀ k, k ∈ all
  names_nodup : (all.map name).Nodup

namespace Vocabulary

variable {κ : Type} [Vocabulary κ]

/-- How many members the vocabulary has. -/
def size (κ : Type) [Vocabulary κ] : Nat := (all : List κ).length

/-- The names of all members, in order. -/
def names (κ : Type) [Vocabulary κ] : List String := (all : List κ).map name

/-- Model of `parse`. The member of that name. -/
def parse? (s : String) : Option κ := all.find? fun k => name k == s

/-- The member written under its name. -/
def write (k : κ) : Json := .str (name k)

/-- Reads a member from its name. -/
def read (j : Json) : Except ReadError κ :=
  match Json.readName (names κ) j with
  | .error e => .error e
  | .ok s => match parse? s with
    | some k => .ok k
    | none => .error (.unknownName s (names κ))

theorem name_injective {j k : κ} (h : name j = name k) : j = k := by
  have hj := mem_all j
  have hk := mem_all k
  have hn : ((all : List κ).map name).Nodup := names_nodup
  generalize (all : List κ) = l at *
  induction l with
  | nil => simp at hj
  | cons x rest ih =>
    simp only [List.map_cons, List.nodup_cons, List.mem_map, not_exists, not_and] at hn
    rcases List.mem_cons.1 hj with rfl | hj' <;> rcases List.mem_cons.1 hk with rfl | hk'
    · rfl
    · exact absurd h.symm (hn.1 k hk')
    · exact absurd h (hn.1 j hj')
    · exact ih hj' hk' hn.2

theorem parse?_name (k : κ) : parse? (name k) = some k := by
  have hk := mem_all k
  unfold parse?
  generalize (all : List κ) = l at hk
  induction l with
  | nil => simp at hk
  | cons x rest ih =>
    by_cases h : name x = name k
    · simp [name_injective h]
    · rcases List.mem_cons.1 hk with rfl | hk'
      · exact absurd rfl h
      · simpa [List.find?_cons, h] using ih hk'

theorem parse?_eq_some_iff {s : String} {k : κ} : parse? s = some k ↔ name k = s := by
  constructor
  · intro h
    simpa using List.find?_some h
  · rintro rfl
    exact parse?_name k

theorem name_mem_names (k : κ) : name k ∈ names κ := List.mem_map.2 ⟨k, mem_all k, rfl⟩

theorem read_write (k : κ) : read (write k) = .ok k := by
  simp [read, write, Json.readName, name_mem_names, parse?_name]

theorem all_nodup : (all : List κ).Nodup :=
  List.Pairwise.of_map name (fun _ _ hne heq => hne (congrArg name heq)) names_nodup

variable [DecidableEq κ]

/-- The place of a member in the vocabulary. -/
def index (k : κ) : Fin (size κ) :=
  ⟨(all : List κ).idxOf k, List.idxOf_lt_length_of_mem (mem_all k)⟩

/-- The member at a place of the vocabulary. -/
def atIndex (i : Fin (size κ)) : κ := (all : List κ).get ⟨i.val, i.isLt⟩

theorem atIndex_index (k : κ) : atIndex (index k) = k := by
  simp only [atIndex, index, List.get_eq_getElem]
  exact List.getElem_idxOf _

theorem index_atIndex (i : Fin (size κ)) : index (atIndex i : κ) = i := by
  apply Fin.ext
  simp only [atIndex, index, List.get_eq_getElem]
  exact List.Nodup.idxOf_getElem all_nodup i.val i.isLt

theorem index_injective {j k : κ} (h : index j = index k) : j = k := by
  rw [← atIndex_index j, h, atIndex_index]

end Vocabulary

end CityCards
