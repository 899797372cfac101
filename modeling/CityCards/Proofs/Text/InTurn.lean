import CityCards.Text.Blank
import Mathlib.Data.List.Forall2

/-!
# Pieces that stand in a text one after the other

Texts that are put together keep the pieces that stand in them, in their order and without overlap.
Blank characters that are taken off the ends of a text do not belong to a piece that has none at its
own ends: they stand beside it, or the piece is empty.

Main definitions:
* `InTurn`: pieces stand in a text one after the other.

Results:
* `inTurn_iff`: the text is cut into the pieces and what is between them.
* `InTurn.append`, `InTurn.intercalate`: texts that are put together.
* `InTurn.trim`: trimming a text keeps trimmed pieces.
-/

namespace CityCards.Text

variable {ds ds' : List (List Char)} {d s t : List Char}

/-- The pieces stand in the text one after the other, with anything before, between and after
them. -/
inductive InTurn : List (List Char) → List Char → Prop where
  | nil (s : List Char) : InTurn [] s
  | cons (s d : List Char) {ds : List (List Char)} {rest : List Char} (h : InTurn ds rest) :
    InTurn (d :: ds) (s ++ d ++ rest)

/-- The text is cut before and after every piece: a part in front of the first, and one behind each
of them. -/
theorem inTurn_iff : InTurn ds t ↔ ∃ (start : List Char) (others : List (List Char)),
    others.length = ds.length ∧ t = start ++ (List.zipWith (· ++ ·) ds others).flatten := by
  constructor
  · intro h
    induction h with
    | nil s => exact ⟨s, [], rfl, (List.append_nil s).symm⟩
    | cons s d _ ih =>
      obtain ⟨start, others, hlength, rfl⟩ := ih
      refine ⟨s, start :: others, congrArg (· + 1) hlength, ?_⟩
      simp only [List.zipWith_cons_cons, List.flatten_cons, List.append_assoc]
  · rintro ⟨start, others, hlength, rfl⟩
    induction ds generalizing start others with
    | nil => exact .nil _
    | cons d ds ih =>
      obtain ⟨o, others, rfl⟩ := List.exists_cons_of_length_eq_add_one hlength
      have hrest := ih o others (Nat.succ.inj hlength)
      rw [List.zipWith_cons_cons, List.flatten_cons, List.append_assoc, ← List.append_assoc]
      exact .cons start d hrest

/-! ## Texts put together -/

namespace InTurn

theorem before (s : List Char) (h : InTurn ds t) : InTurn ds (s ++ t) := by
  cases h with
  | nil _ => exact .nil _
  | cons s' d hrest =>
    rw [← List.append_assoc, ← List.append_assoc]
    exact .cons (s ++ s') d hrest

theorem append (h : InTurn ds s) (h' : InTurn ds' t) : InTurn (ds ++ ds') (s ++ t) := by
  induction h with
  | nil s => exact h'.before s
  | cons s d _ ih =>
    rw [List.append_assoc]
    exact .cons s d ih

theorem after (h : InTurn ds t) (s : List Char) : InTurn ds (t ++ s) := by
  have happend := h.append (.nil s)
  rwa [List.append_nil] at happend

/-- A part of a text is a single piece of it. -/
theorem of_isInfix (h : d <:+: t) : InTurn [d] t := by
  obtain ⟨s, rest, rfl⟩ := h
  exact .cons s d (.nil rest)

/-- Texts one after the other, with a separator between them. -/
theorem intercalate {dss : List (List (List Char))} {ts : List (List Char)} (sep : List Char)
    (h : List.Forall₂ InTurn dss ts) : InTurn dss.flatten (sep.intercalate ts) := by
  induction h with
  | nil => exact .nil _
  | cons hfirst hrest ih =>
    rw [List.flatten_cons]
    cases hrest with
    | nil => simpa using hfirst
    | cons _ _ =>
      rw [List.intercalate_cons_cons]
      exact (hfirst.after sep).append ih

/-- Numbered texts one after the other, each with something put around it. -/
theorem flatten_mapIdx {dss : List (List (List Char))} {ts : List (List Char)}
    {f : Nat → List Char → List Char} (hf : ∀ i, ∀ ds ∈ dss, ∀ t, InTurn ds t → InTurn ds (f i t))
    (h : List.Forall₂ InTurn dss ts) : InTurn dss.flatten (ts.mapIdx f).flatten := by
  induction h generalizing f with
  | nil => exact .nil _
  | cons hfirst _ ih =>
    rw [List.mapIdx_cons, List.flatten_cons, List.flatten_cons]
    have hrest := ih fun i ds hds => hf (i + 1) ds (List.mem_cons_of_mem _ hds)
    exact (hf 0 _ List.mem_cons_self _ hfirst).append hrest

theorem reverse (h : InTurn ds t) : InTurn (ds.map List.reverse).reverse t.reverse := by
  induction h with
  | nil s => exact .nil _
  | cons s d _ ih =>
    rw [List.map_cons, List.reverse_cons, List.reverse_append, List.reverse_append]
    exact ih.append (.of_isInfix (List.prefix_append _ _).isInfix)

end InTurn

/-! ## Trimming -/

/-- There is no blank character at either end. -/
def IsTight (s : List Char) : Prop :=
  (∀ c ∈ s.head?, isBlank c = false) ∧ ∀ c ∈ s.getLast?, isBlank c = false

theorem IsTight.reverse (h : IsTight s) : IsTight s.reverse := by
  rw [IsTight, List.head?_reverse, List.getLast?_reverse]
  exact ⟨h.2, h.1⟩

theorem head?_trimStart (s : List Char) : ∀ c ∈ (trimStart s).head?, isBlank c = false := by
  intro c hc
  have hhead := List.head?_dropWhile_not isBlank s
  rw [trimStart] at hc
  rw [Option.mem_def.mp hc] at hhead
  exact hhead

theorem isPrefix_trimEnd (s : List Char) : trimEnd s <+: s :=
  List.reverse_suffix.mp (by rw [trimEnd, List.reverse_reverse]; exact List.dropWhile_suffix _)

theorem isInfix_trim (s : List Char) : trim s <:+: s :=
  (isPrefix_trimEnd _).isInfix.trans (List.dropWhile_suffix _).isInfix

theorem isTight_trim (s : List Char) : IsTight (trim s) := by
  constructor
  · intro c hc
    obtain ⟨rest, hrest⟩ := isPrefix_trimEnd (trimStart s)
    rw [trim, Option.mem_def] at hc
    refine head?_trimStart s c ?_
    rw [← hrest, List.head?_append, hc]
    rfl
  · rw [trim, trimEnd, List.getLast?_reverse]
    exact head?_trimStart _

namespace InTurn

/-- A blank character in front of the text stands in front of the first piece that is not empty. -/
theorem of_cons_blank {c : Char} (hc : isBlank c = true) (hds : ∀ d ∈ ds, IsTight d)
    (h : InTurn ds (c :: t)) : InTurn ds t := by
  generalize htext : c :: t = text at h
  induction h with
  | nil _ => exact .nil _
  | cons s d hrest ih =>
    cases s with
    | cons _ s =>
      -- The blank character is not in a piece.
      obtain ⟨-, rfl⟩ := List.cons.inj htext
      exact .cons s d hrest
    | nil =>
      cases d with
      | nil => exact .cons [] [] (ih (fun d hd => hds d (List.mem_cons_of_mem _ hd)) htext)
      | cons b d =>
        obtain ⟨rfl, -⟩ := List.cons.inj htext
        have hfirst := (hds _ List.mem_cons_self).1 c rfl
        rw [hc] at hfirst
        contradiction

theorem trimStart (hds : ∀ d ∈ ds, IsTight d) (h : InTurn ds t) : InTurn ds (trimStart t) := by
  rw [Text.trimStart]
  induction t with
  | nil => exact h
  | cons c t ih =>
    by_cases hc : isBlank c = true
    · rw [List.dropWhile_cons_of_pos hc]
      exact ih (h.of_cons_blank hc hds)
    · rwa [List.dropWhile_cons_of_neg hc]

theorem trimEnd (hds : ∀ d ∈ ds, IsTight d) (h : InTurn ds t) : InTurn ds (trimEnd t) := by
  have htight : ∀ d ∈ (ds.map List.reverse).reverse, IsTight d := by
    intro d hd
    obtain ⟨d', hd', rfl⟩ := List.mem_map.mp (List.mem_reverse.mp hd)
    exact (hds d' hd').reverse
  have hpieces : ((ds.map List.reverse).reverse.map List.reverse).reverse = ds := by simp
  have hreverse := (h.reverse.trimStart htight).reverse
  rwa [hpieces] at hreverse

/-- What trimming takes off a text is no part of a trimmed piece. -/
theorem trim (hds : ∀ d ∈ ds, IsTight d) (h : InTurn ds t) : InTurn ds (trim t) :=
  (h.trimStart hds).trimEnd hds

end InTurn

end CityCards.Text
