/-!
# Sets of names

A finite set of texts, kept as the ascending list of its members, so that equal sets are equal
lists.

Results:
* `NameSet.contains_insert`, `NameSet.contains_erase`: a change concerns its own name only.
* `NameSet.ext_contains`: a set is what it contains.
-/

namespace CityCards

/-- A finite set of texts. -/
structure NameSet where
  names : List String
  ascending : names.Pairwise (· < ·)
  deriving DecidableEq

namespace NameSet

/-- The set without members. -/
def empty : NameSet := ⟨[], List.Pairwise.nil⟩

/-- Puts a name into an ascending list. -/
def insertName (s : String) : List String → List String
  | [] => [s]
  | t :: rest =>
    if s < t then s :: t :: rest else if s = t then t :: rest else t :: insertName s rest

theorem mem_insertName {s t : String} {l : List String} :
    t ∈ insertName s l ↔ t = s ∨ t ∈ l := by
  induction l with
  | nil => simp [insertName]
  | cons u rest ih =>
    by_cases h : s < u
    · simp [insertName, h]
    · by_cases h' : s = u
      · subst h'; simp [insertName]
      · simp only [insertName, h, h', if_false, List.mem_cons, ih]
        constructor
        · rintro (rfl | rfl | h) <;> simp_all
        · rintro (rfl | rfl | h) <;> simp_all

theorem pairwise_insertName {s : String} {l : List String} (h : l.Pairwise (· < ·)) :
    (insertName s l).Pairwise (· < ·) := by
  induction l with
  | nil => simp [insertName]
  | cons u rest ih =>
    have hu := List.pairwise_cons.1 h
    by_cases hlt : s < u
    · simp only [insertName, hlt, if_true]
      refine List.pairwise_cons.2 ⟨?_, h⟩
      intro v hv
      rcases List.mem_cons.1 hv with rfl | hv
      · exact hlt
      · exact String.lt_trans hlt (hu.1 v hv)
    · by_cases heq : s = u
      · subst heq; simpa [insertName] using h
      · simp only [insertName, hlt, heq, if_false]
        refine List.pairwise_cons.2 ⟨?_, ih hu.2⟩
        intro v hv
        rcases mem_insertName.1 hv with rfl | hv
        · rcases Decidable.em (u < v) with h' | h'
          · exact h'
          · exact absurd (String.le_antisymm (String.not_lt.1 h') (String.not_lt.1 hlt)) heq
        · exact hu.1 v hv

/-- The set with a name added. -/
def insert (s : String) (a : NameSet) : NameSet :=
  ⟨insertName s a.names, pairwise_insertName a.ascending⟩

/-- The set without a name. -/
def erase (s : String) (a : NameSet) : NameSet :=
  ⟨a.names.filter (· ≠ s), a.ascending.filter _⟩

/-- The set has that member. -/
def contains (s : String) (a : NameSet) : Bool := a.names.contains s

/-- The set of the texts in a list. -/
def ofList (l : List String) : NameSet := l.foldl (fun a s => a.insert s) empty

theorem contains_empty (s : String) : empty.contains s = false := rfl

theorem contains_insert (s t : String) (a : NameSet) :
    (a.insert s).contains t = (t == s || a.contains t) := by
  rw [Bool.eq_iff_iff]
  simp [contains, insert, mem_insertName]

theorem contains_erase (s t : String) (a : NameSet) :
    (a.erase s).contains t = (a.contains t && t != s) := by
  rw [Bool.eq_iff_iff]
  simp [contains, erase]

theorem names_eq_of_mem_iff {l m : List String} (hl : l.Pairwise (· < ·)) (hm : m.Pairwise (· < ·))
    (h : ∀ s, s ∈ l ↔ s ∈ m) : l = m := by
  induction l generalizing m with
  | nil =>
    cases m with
    | nil => rfl
    | cons t rest => exact absurd ((h t).2 (by simp)) (by simp)
  | cons s l' ih =>
    cases m with
    | nil => exact absurd ((h s).1 (by simp)) (by simp)
    | cons t m' =>
      have hs := List.pairwise_cons.1 hl
      have ht := List.pairwise_cons.1 hm
      have hst : s = t := by
        rcases List.mem_cons.1 ((h s).1 (by simp)) with e | hm'
        · exact e
        · rcases List.mem_cons.1 ((h t).2 (by simp)) with e | hl'
          · exact e.symm
          · exact absurd (String.lt_trans (hs.1 t hl') (ht.1 s hm')) (String.lt_irrefl s)
      subst hst
      congr 1
      refine ih hs.2 ht.2 fun u => ⟨fun hu => ?_, fun hu => ?_⟩
      · rcases List.mem_cons.1 ((h u).1 (by simp [hu])) with e | h'
        · exact absurd (e ▸ hs.1 u hu) (String.lt_irrefl u)
        · exact h'
      · rcases List.mem_cons.1 ((h u).2 (by simp [hu])) with e | h'
        · exact absurd (e ▸ ht.1 u hu) (String.lt_irrefl u)
        · exact h'

theorem ext_contains {a b : NameSet} (h : ∀ s, a.contains s = b.contains s) : a = b := by
  cases a with
  | mk l hl =>
    cases b with
    | mk m hm =>
      have : l = m := names_eq_of_mem_iff hl hm fun s => by
        have := Bool.eq_iff_iff.1 (h s)
        simpa [contains] using this
      subst this
      rfl

end NameSet

end CityCards
