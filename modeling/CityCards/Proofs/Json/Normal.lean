import CityCards.Json.Value

/-!
# Values in normal form

A value that is taken from a text is put into normal form: the members of every object ascend by
name. What is written with ascending names is left as it is, so it does not matter in which order a
text has the members.

Main definitions:
* `Json.IsNormal`: the value is its own normal form.

Results:
* `Json.sortedMembers_eq_append`: members that ascend are put into place one behind the other.
* `Json.isNormal_obj`, `Json.isNormal_arr`: objects and arrays of values in normal form.
-/

namespace CityCards.Json

/-- The value is its own normal form. -/
def IsNormal (j : Json) : Prop := j.sorted = j

theorem isNormal_str (s : String) : IsNormal (.str s) := by
  simp [IsNormal, sorted]

theorem isNormal_int (n : Int) : IsNormal (.int n) := by
  simp [IsNormal, sorted]

theorem isNormal_bool (b : Bool) : IsNormal (.bool b) := by
  simp [IsNormal, sorted]

theorem isNormal_arr {items : List Json} (h : ∀ j ∈ items, j.IsNormal) : IsNormal (.arr items) := by
  rw [IsNormal, sorted, sortedItems_eq_map]
  exact congrArg arr ((List.map_congr_left h).trans (List.map_id items))

/-! ## Objects -/

/-- A member that comes after all others is put last. -/
theorem insertMember_of_lt {name : String} {done : List (String × Json)} (v : Json)
    (h : ∀ m ∈ done, m.1 < name) : insertMember name v done = done ++ [(name, v)] := by
  induction done with
  | nil => rfl
  | cons m rest ih =>
    obtain ⟨hm, hrest⟩ := List.forall_mem_cons.mp h
    have hnot : ¬name < m.1 := String.lt_asymm hm
    have hne : name ≠ m.1 := (String.ne_of_lt hm).symm
    rw [insertMember, if_neg hnot, if_neg hne, ih hrest, List.cons_append]

/-- Members that ascend, and come after those that are there, are put behind them. -/
theorem sortedMembers_eq_append {ms done : List (String × Json)}
    (hnames : ((done ++ ms).map Prod.fst).Pairwise (· < ·)) (hvalues : ∀ m ∈ ms, m.2.IsNormal) :
    sortedMembers ms done = done ++ ms := by
  induction ms generalizing done with
  | nil => rw [sortedMembers, List.append_nil]
  | cons m rest ih =>
    obtain ⟨hm, hrest⟩ := List.forall_mem_cons.mp hvalues
    have hlast : ∀ d ∈ done, d.1 < m.1 := by
      rw [List.map_append, List.pairwise_append] at hnames
      exact fun d hd => hnames.2.2 d.1 (List.mem_map_of_mem hd) m.1 List.mem_cons_self
    rw [List.append_cons] at hnames ⊢
    rw [sortedMembers, show m.2.sorted = m.2 from hm, insertMember_of_lt m.2 hlast]
    exact ih hnames hrest

theorem isNormal_obj {ms : List (String × Json)} (hnames : (ms.map Prod.fst).Pairwise (· < ·))
    (hvalues : ∀ m ∈ ms, m.2.IsNormal) : IsNormal (.obj ms) := by
  rw [IsNormal, sorted, sortedMembers_eq_append (by simpa using hnames) hvalues, List.nil_append]

end CityCards.Json
