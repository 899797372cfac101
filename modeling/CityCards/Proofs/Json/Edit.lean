import CityCards.Json.Path

/-!
# Replacing a part of a value

One part of a value is replaced, and everything around it is kept. Where a path leads nowhere, there
is nothing to replace.

Main definitions:
* `Json.modifyAt`: applies a function to the part that a path leads to.
* `Json.replaceAt`: puts a value in the place of the part that a path leads to.
* `Json.Path.Apart`: two paths go different ways.

Results:
* `Json.at?_modifyAt`: the part that the path leads to is the one that changes.
* `Json.at?_modifyAt_of_apart`: what lies on a path that goes another way is kept.
-/

namespace CityCards.Json

/-! ## One step -/

/-- Applies a function to the value of the first member with that name. -/
def modifyMember (name : String) (f : Json → Json) : List (String × Json) → List (String × Json)
  | [] => []
  | (k, v) :: rest => if k = name then (k, f v) :: rest else (k, v) :: modifyMember name f rest

/-- Applies a function to the part that a step leads to. -/
def modifyChild (f : Json → Json) : Step → Json → Json
  | .member name, .obj ms => .obj (modifyMember name f ms)
  | .item i, .arr items => .arr (items.modify i f)
  | _, j => j

section

variable (f : Json → Json)

theorem map_fst_modifyMember (name : String) (ms : List (String × Json)) :
    (modifyMember name f ms).map Prod.fst = ms.map Prod.fst := by
  induction ms with
  | nil => rfl
  | cons m rest ih =>
    obtain ⟨k, v⟩ := m
    by_cases h : k = name <;> simp [modifyMember, h, ih]

theorem find?_modifyMember_self (name : String) (ms : List (String × Json)) :
    find? name (modifyMember name f ms) = (find? name ms).map f := by
  induction ms with
  | nil => rfl
  | cons m rest ih =>
    obtain ⟨k, v⟩ := m
    by_cases h : k = name <;> simp [modifyMember, find?, h, ih]

theorem find?_modifyMember_of_ne {name k : String} (hk : k ≠ name) (ms : List (String × Json)) :
    find? k (modifyMember name f ms) = find? k ms := by
  induction ms with
  | nil => rfl
  | cons m rest ih =>
    obtain ⟨l, v⟩ := m
    by_cases h : l = name
    · simp [modifyMember, find?, h, hk.symm]
    · simp [modifyMember, find?, h, ih]

theorem child?_modifyChild_self (s : Step) (j : Json) :
    (modifyChild f s j).child? s = (j.child? s).map f := by
  cases s with
  | member name =>
    cases j with
    | obj ms => exact find?_modifyMember_self f name ms
    | _ => rfl
  | item i => cases j <;> simp [modifyChild, child?, asItems?]

theorem child?_modifyChild_of_ne {s t : Step} (h : t ≠ s) (j : Json) :
    (modifyChild f s j).child? t = j.child? t := by
  cases s with
  | member name =>
    cases j with
    | obj ms =>
      cases t with
      | member k => exact find?_modifyMember_of_ne f (fun hk => h (congrArg Step.member hk)) ms
      | item i => rfl
    | _ => rfl
  | item i =>
    cases j with
    | arr items =>
      cases t with
      | member k => rfl
      | item k =>
        have hk : i ≠ k := fun hk => h (congrArg Step.item hk.symm)
        simp [modifyChild, child?, asItems?, hk]
    | _ => rfl

end

/-! ## A whole path -/

/-- Applies a function to the part that a path leads to. -/
def modifyAt (f : Json → Json) : Path → Json → Json
  | [], j => f j
  | s :: rest, j => modifyChild (modifyAt f rest) s j

/-- Puts a value in the place of the part that a path leads to. -/
def replaceAt (j : Json) (p : Path) (k : Json) : Json := modifyAt (fun _ => k) p j

theorem modifyAt_append (f : Json → Json) (p q : Path) (j : Json) :
    modifyAt f (p ++ q) j = modifyAt (modifyAt f q) p j := by
  induction p generalizing j with
  | nil => rfl
  | cons s rest ih =>
    have hrest : modifyAt f (rest ++ q) = modifyAt (modifyAt f q) rest := funext ih
    simp only [List.cons_append, modifyAt, hrest]

theorem at?_modifyAt (f : Json → Json) (p : Path) (j : Json) :
    (modifyAt f p j).at? p = (j.at? p).map f := by
  induction p generalizing j with
  | nil => rfl
  | cons s rest ih =>
    simp only [modifyAt, at?, child?_modifyChild_self, Option.bind_map, Option.map_bind]
    exact congrArg (j.child? s).bind (funext ih)

/-- At some step the paths go different ways. -/
def Path.Apart : Path → Path → Prop
  | s :: p, t :: q => s ≠ t ∨ Apart p q
  | _, _ => False

/-- On a path that goes another way there is what has been there before. -/
theorem at?_modifyAt_of_apart (f : Json → Json) {p q : Path} (h : p.Apart q) (j : Json) :
    (modifyAt f p j).at? q = j.at? q := by
  induction p generalizing j q with
  | nil => exact h.elim
  | cons s p ih =>
    cases q with
    | nil => exact h.elim
    | cons t q =>
      by_cases hst : s = t
      · subst hst
        have hrest : Path.Apart p q := h.resolve_left fun hne => hne rfl
        simp only [modifyAt, at?, child?_modifyChild_self, Option.bind_map]
        exact congrArg (j.child? s).bind (funext fun k => ih hrest k)
      · simp only [modifyAt, at?, child?_modifyChild_of_ne _ (Ne.symm hst)]

end CityCards.Json
