import CityCards.Json.Path

/-!
# Path texts are read back

A path text is read from left to right. A point leads to the name of a member and a bracket to an
index, and a name goes on up to the next point or bracket. So a text is that of one path only, as
long as no name is empty or has a point or a bracket in it.

Main definitions:
* `Json.Path.ofText?`: the path that a text is read as.
* `Json.Path.IsPlain`: the names on a path can be told apart from what is between them.

Results:
* `Json.Path.ofText?_text`: the text of a path is read as the path.
-/

namespace CityCards.Json.Path

/-! ## Reading a path text -/

/-- How far the present step has been read. -/
inductive Reading where
  /-- In a name, of which these are the first characters. -/
  | name (cs : List Char)
  /-- In an index, of which these are the first digits. -/
  | index (cs : List Char)
  /-- At the end of a step. -/
  | done

/-- The rest of a path text, read as the present step and those that follow it. -/
def readFrom : Reading → List Char → Option Path
  | .name cs, [] => some [.member (String.ofList cs)]
  | .name cs, c :: rest =>
    if c = '.' then (readFrom (.name []) rest).map (.member (String.ofList cs) :: ·)
    else if c = '[' then (readFrom (.index []) rest).map (.member (String.ofList cs) :: ·)
    else readFrom (.name (cs ++ [c])) rest
  | .index _, [] => none
  | .index cs, c :: rest =>
    if c = ']' then (readFrom .done rest).map (.item (Nat.ofDigitChars 10 cs 0) :: ·)
    else if c.isDigit then readFrom (.index (cs ++ [c])) rest
    else none
  | .done, [] => some []
  | .done, c :: rest =>
    if c = '.' then readFrom (.name []) rest
    else if c = '[' then readFrom (.index []) rest
    else none

/-- The path that a text is read as. -/
def ofText? (s : String) : Option Path :=
  match s.toList with
  | [] => some []
  | c :: rest => if c = '[' then readFrom (.index []) rest else readFrom (.name []) (c :: rest)

/-! ## Plain names -/

/-- The name is not empty, and there is no point and no bracket in it. -/
def IsPlainName (name : String) : Prop := name.toList ≠ [] ∧ ∀ c ∈ name.toList, c ≠ '.' ∧ c ≠ '['

/-- All names on the path are plain. -/
def IsPlain (p : Path) : Prop := ∀ name, .member name ∈ p → IsPlainName name

theorem isPlain_append {p q : Path} : IsPlain (p ++ q) ↔ IsPlain p ∧ IsPlain q := by
  simp only [IsPlain, List.mem_append, or_imp, forall_and]

/-! ## Texts -/

/-- A name goes on as long as its characters are plain. -/
theorem readFrom_name {cs : List Char} (h : ∀ c ∈ cs, c ≠ '.' ∧ c ≠ '[') (before rest : List Char) :
    readFrom (.name before) (cs ++ rest) = readFrom (.name (before ++ cs)) rest := by
  induction cs generalizing before with
  | nil => rw [List.nil_append, List.append_nil]
  | cons c r ih =>
    obtain ⟨⟨hpoint, hbracket⟩, hr⟩ := List.forall_mem_cons.mp h
    rw [List.cons_append, readFrom, if_neg hpoint, if_neg hbracket, ih hr, List.append_assoc,
      List.singleton_append]

/-- An index goes on as long as there are digits. -/
theorem readFrom_digits {cs : List Char} (h : ∀ c ∈ cs, c.isDigit = true)
    (before rest : List Char) :
    readFrom (.index before) (cs ++ rest) = readFrom (.index (before ++ cs)) rest := by
  induction cs generalizing before with
  | nil => rw [List.nil_append, List.append_nil]
  | cons c r ih =>
    obtain ⟨hc, hr⟩ := List.forall_mem_cons.mp h
    have hbracket : c ≠ ']' := by
      rintro rfl
      cases hc
    rw [List.cons_append, readFrom, if_neg hbracket, if_pos hc, ih hr, List.append_assoc,
      List.singleton_append]

theorem readFrom_index (i : Nat) (rest : List Char) :
    readFrom (.index []) ((toString i).toList ++ ']' :: rest) =
      (readFrom .done rest).map (.item i :: ·) := by
  have hdigits : ∀ c ∈ Nat.toDigits 10 i, c.isDigit = true :=
    fun _ hc => Nat.isDigit_of_mem_toDigits (by decide) (by decide) hc
  rw [Nat.toString_eq_repr, Nat.toList_repr, readFrom_digits hdigits, List.nil_append, readFrom,
    if_pos rfl, Nat.ofDigitChars_toDigits (by decide) (by decide)]

theorem readFrom_member {name : String} (h : IsPlainName name) {rest : Path}
    (hrest : ∀ cs, readFrom (.name cs) (tailText rest).toList =
      some (.member (String.ofList cs) :: rest)) :
    readFrom (.name []) (name.toList ++ (tailText rest).toList) = some (.member name :: rest) := by
  rw [readFrom_name h.2, List.nil_append, hrest, String.ofList_toList]

theorem readFrom_item (i : Nat) {rest : Path}
    (hrest : readFrom .done (tailText rest).toList = some rest) :
    readFrom (.index []) ((toString i).toList ++ ']' :: (tailText rest).toList) =
      some (.item i :: rest) := by
  rw [readFrom_index, hrest, Option.map_some]

/-- What follows a step is read, and it ends a name that has been read before it. -/
theorem readFrom_tailText {p : Path} (h : IsPlain p) :
    readFrom .done (tailText p).toList = some p ∧
      ∀ cs, readFrom (.name cs) (tailText p).toList = some (.member (String.ofList cs) :: p) := by
  induction p with
  | nil => exact ⟨rfl, fun _ => rfl⟩
  | cons s rest ih =>
    obtain ⟨hdone, hname⟩ := ih fun name hname => h name (List.mem_cons_of_mem _ hname)
    cases s with
    | member name =>
      have hread := readFrom_member (h name List.mem_cons_self) hname
      have htext : (tailText (.member name :: rest)).toList =
          '.' :: (name.toList ++ (tailText rest).toList) := by
        simp [tailText]
      rw [htext]
      refine ⟨?_, fun cs => ?_⟩
      · rw [readFrom, if_pos rfl, hread]
      · rw [readFrom, if_pos rfl, hread, Option.map_some]
    | item i =>
      have hread := readFrom_item i hdone
      have htext : (tailText (.item i :: rest)).toList =
          '[' :: ((toString i).toList ++ ']' :: (tailText rest).toList) := by
        simp [tailText]
      rw [htext]
      refine ⟨?_, fun cs => ?_⟩
      · rw [readFrom, if_neg (by decide), if_pos rfl, hread]
      · rw [readFrom, if_neg (by decide), if_pos rfl, hread, Option.map_some]

/-- The text of a path is read as the path. -/
theorem ofText?_text {p : Path} (h : IsPlain p) : ofText? (text p) = some p := by
  cases p with
  | nil => rfl
  | cons s rest =>
    obtain ⟨hdone, hname⟩ := readFrom_tailText fun name hname =>
      h name (List.mem_cons_of_mem s hname)
    cases s with
    | member name =>
      obtain ⟨hne, hplain⟩ := h name List.mem_cons_self
      have hread := readFrom_member ⟨hne, hplain⟩ hname
      have htext : (text (.member name :: rest)).toList =
          name.toList ++ (tailText rest).toList := by
        simp [text]
      rw [ofText?, htext]
      -- The text does not begin with a bracket, since the name does not.
      cases hcs : name.toList with
      | nil => exact absurd hcs hne
      | cons c r =>
        rw [hcs] at hplain hread
        exact (if_neg (hplain c List.mem_cons_self).2).trans hread
    | item i =>
      have htext : (text (.item i :: rest)).toList =
          '[' :: ((toString i).toList ++ ']' :: (tailText rest).toList) := by
        simp [text]
      rw [ofText?, htext]
      exact (if_pos rfl).trans (readFrom_item i hdone)

end CityCards.Json.Path
