import CityCards.Json.Record
import Mathlib.Data.List.Nodup

/-!
# Reading the fields of an object

A field of a named record is read from the one member that goes by one of its names. So reading it
comes down to finding a member, and an object without repeated names can be read member by member.

Results:
* `Record.read_of_field`: whatever goes by a name of the field has been read as its value.
* `Record.find?_of_field`: a field without a default has a member.
* `Record.field_eq_ok_iff`: a field of an object without repeated names is read from the member
  found, or from the default if there is none.
-/

namespace CityCards

theorem Ranked.seqLeft_eq_ok_iff {α β : Type} {x : Ranked α} {y : Ranked β} {a : α} :
    x <* y = .ok a ↔ x = .ok a ∧ ∃ b, y = .ok b := by
  show (fun a _ => a) <$> x <*> y = .ok a ↔ _
  rw [seq_eq_ok_iff]
  constructor
  · rintro ⟨f, b, hf, hb, rfl⟩
    obtain ⟨a, ha, rfl⟩ := map_eq_ok_iff.mp hf
    exact ⟨ha, b, hb⟩
  · rintro ⟨ha, b, hb⟩
    exact ⟨fun _ => a, b, map_eq_ok_iff.mpr ⟨a, ha, rfl⟩, hb, rfl⟩

theorem Ranked.ofExcept_eq_ok_iff {α : Type} {rank : Nat} {x : Except ReadError α} {a : α} :
    ofExcept rank x = .ok a ↔ x = .ok a := by
  cases x <;> simp [ofExcept]

/-! ## Finding members -/

namespace Json

@[simp]
theorem find?_append (name : String) (xs ys : List (String × Json)) :
    find? name (xs ++ ys) = (find? name xs).or (find? name ys) := by
  induction xs with
  | nil => rfl
  | cons m rest ih =>
    by_cases h : m.1 = name <;> simp [find?, h, ih]

theorem find?_eq_none_iff {name : String} {ms : List (String × Json)} :
    find? name ms = none ↔ name ∉ ms.map Prod.fst := by
  induction ms with
  | nil => simp [find?]
  | cons m rest ih =>
    obtain ⟨k, v⟩ := m
    by_cases h : k = name
    · simp [find?, h]
    · simp [find?, h, ih, Ne.symm h]

theorem mem_of_find?_eq_some {name : String} {ms : List (String × Json)} {v : Json}
    (h : find? name ms = some v) : ∃ i : Nat, ms[i]? = some (name, v) := by
  induction ms with
  | nil => cases h
  | cons m rest ih =>
    obtain ⟨k, w⟩ := m
    rw [find?] at h
    split at h
    · rename_i hk
      cases h
      exact ⟨0, by simp [hk]⟩
    · obtain ⟨i, hi⟩ := ih h
      exact ⟨i + 1, by simpa using hi⟩

end Json

/-! ## Fields -/

namespace Record

variable {α β : Type}

theorem mem_occurrences_iff {names : List String} {start i : Nat} {v : β}
    {ms : List (String × β)} :
    (i, v) ∈ occurrences names start ms ↔
      ∃ j k, i = start + j ∧ ms[j]? = some (k, v) ∧ k ∈ names := by
  induction ms generalizing start with
  | nil => simp [occurrences]
  | cons m rest ih =>
    obtain ⟨k, w⟩ := m
    constructor
    · intro h
      rw [occurrences] at h
      split at h
      · rename_i hk
        rcases List.mem_cons.mp h with heq | hrest
        · cases heq
          exact ⟨0, k, rfl, rfl, hk⟩
        · obtain ⟨j, k', hi, hj, hk'⟩ := ih.mp hrest
          exact ⟨j + 1, k', by omega, hj, hk'⟩
      · obtain ⟨j, k', hi, hj, hk'⟩ := ih.mp h
        exact ⟨j + 1, k', by omega, hj, hk'⟩
    · rintro ⟨j, k', hi, hj, hk'⟩
      rw [occurrences]
      cases j with
      | zero =>
        cases hj
        simp [hi, hk']
      | succ j =>
        have hrest := ih.mpr ⟨j, k', (by omega : i = start + 1 + j), hj, hk'⟩
        split
        · exact List.mem_cons_of_mem _ hrest
        · exact hrest

theorem field_named_cases {ms : List (String × β)} {l : RecordLayout} {place : Nat}
    {names : List String} {absent : Option α} {read : β → Except ReadError α} {a : α}
    (h : (named ms).field l place names absent read = .ok a) :
    (occurrences names 0 ms = [] ∧ absent = some a) ∨
      ∃ i v, occurrences names 0 ms = [(i, v)] ∧ read v = .ok a := by
  unfold field at h
  rcases hocc : occurrences names 0 ms with _ | ⟨⟨i, v⟩, _ | ⟨⟨j, w⟩, rest⟩⟩
  · left
    cases absent with
    | none => simp [hocc] at h
    | some b => simpa [hocc] using h
  · right
    simp only [hocc, Ranked.ofExcept_eq_ok_iff] at h
    exact ⟨i, v, rfl, h⟩
  · cases hr : read v <;> simp [hocc, hr] at h

section

variable {ms : List (String × Json)} {l : RecordLayout} {place : Nat} {absent : Option α}
  {read : Json → Except ReadError α} {a : α}

/-- Whatever goes by one of the names of a field that has been read, was read as its value. -/
theorem read_of_field {names : List String} {k : String} {v : Json}
    (h : (named ms).field l place names absent read = .ok a) (hk : k ∈ names)
    (hv : Json.find? k ms = some v) : read v = .ok a := by
  obtain ⟨j, hj⟩ := Json.mem_of_find?_eq_some hv
  have hmem : (0 + j, v) ∈ occurrences names 0 ms := mem_occurrences_iff.mpr ⟨j, k, rfl, hj, hk⟩
  rcases field_named_cases h with ⟨hocc, _⟩ | ⟨i, w, hocc, hw⟩
  · simp [hocc] at hmem
  · rw [hocc, List.mem_singleton] at hmem
    cases hmem
    exact hw

/-- A field does not go by two names at once. -/
theorem eq_of_field {names : List String} {k k' : String} {v v' : Json}
    (h : (named ms).field l place names absent read = .ok a) (hk : k ∈ names) (hk' : k' ∈ names)
    (hv : Json.find? k ms = some v) (hv' : Json.find? k' ms = some v') : k = k' := by
  obtain ⟨j, hj⟩ := Json.mem_of_find?_eq_some hv
  obtain ⟨j', hj'⟩ := Json.mem_of_find?_eq_some hv'
  have hmem : (0 + j, v) ∈ occurrences names 0 ms := mem_occurrences_iff.mpr ⟨j, k, rfl, hj, hk⟩
  have hmem' : (0 + j', v') ∈ occurrences names 0 ms :=
    mem_occurrences_iff.mpr ⟨j', k', rfl, hj', hk'⟩
  rcases field_named_cases h with ⟨hocc, _⟩ | ⟨i, w, hocc, _⟩
  · simp [hocc] at hmem
  · rw [hocc, List.mem_singleton, Prod.mk.injEq] at hmem hmem'
    obtain rfl : j = j' := by omega
    rw [hj] at hj'
    cases hj'
    rfl

/-- A field that has no default is read from a member. -/
theorem find?_of_field {name : String}
    (h : (named ms).field l place [name] none read = .ok a) :
    ∃ v, Json.find? name ms = some v ∧ read v = .ok a := by
  cases hv : Json.find? name ms with
  | some v => exact ⟨v, rfl, read_of_field h List.mem_cons_self hv⟩
  | none =>
    rcases field_named_cases h with ⟨_, hnone⟩ | ⟨i, w, hocc, _⟩
    · cases hnone
    · have hmem : (i, w) ∈ occurrences [name] 0 ms := by simp [hocc]
      obtain ⟨j, k, _, hj, hk⟩ := mem_occurrences_iff.mp hmem
      rw [List.mem_singleton.mp hk] at hj
      have : name ∈ ms.map Prod.fst :=
        List.mem_map.mpr ⟨_, List.mem_of_getElem? hj, rfl⟩
      exact absurd this (Json.find?_eq_none_iff.mp hv)

theorem occurrences_eq_nil_iff {names : List String} {start : Nat} {ms : List (String × β)} :
    occurrences names start ms = [] ↔ ∀ k ∈ names, k ∉ ms.map Prod.fst := by
  induction ms generalizing start with
  | nil => simp [occurrences]
  | cons m rest ih =>
    rw [occurrences]
    split
    · rename_i hm
      simp only [List.cons_ne_nil, false_iff]
      exact fun h => h m.1 hm (by simp)
    · rename_i hm
      rw [ih]
      constructor
      · intro h k hk hmem
        rcases List.mem_cons.mp hmem with rfl | hmem
        · exact hm hk
        · exact h k hk hmem
      · exact fun h k hk hmem => h k hk (List.mem_cons_of_mem _ hmem)

theorem occurrences_of_find? {name : String} {v : Json} (start : Nat)
    (hn : (ms.map Prod.fst).Nodup) (hv : Json.find? name ms = some v) :
    ∃ i, occurrences [name] start ms = [(i, v)] := by
  induction ms generalizing start with
  | nil => cases hv
  | cons m rest ih =>
    obtain ⟨k, w⟩ := m
    rw [List.map_cons, List.nodup_cons] at hn
    rw [Json.find?] at hv
    split at hv
    · rename_i hk
      cases hv
      have hrest : occurrences [name] (start + 1) rest = [] :=
        occurrences_eq_nil_iff.mpr fun k' hk' => by
          rw [List.mem_singleton.mp hk', ← hk]
          exact hn.1
      exact ⟨start, by simp [occurrences, hk, hrest]⟩
    · rename_i hk
      obtain ⟨i, hi⟩ := ih (start + 1) hn.2 hv
      exact ⟨i, by simp [occurrences, hk, hi]⟩

/-- A field of an object without repeated names. -/
theorem field_eq_ok_iff {name : String} (hn : (ms.map Prod.fst).Nodup) :
    (named ms).field l place [name] absent read = .ok a ↔
      match Json.find? name ms with
      | some v => read v = .ok a
      | none => absent = some a := by
  cases hv : Json.find? name ms with
  | some v =>
    obtain ⟨i, hi⟩ := occurrences_of_find? 0 hn hv
    simp [field, hi, Ranked.ofExcept_eq_ok_iff]
  | none =>
    have hocc : occurrences [name] 0 ms = [] := occurrences_eq_nil_iff.mpr fun k hk => by
      rw [List.mem_singleton.mp hk]
      exact Json.find?_eq_none_iff.mp hv
    cases absent <;> simp [field, hocc]

end

end Record

end CityCards
