import CityCards.Text.Blank
import Mathlib.Algebra.GroupWithZero.Nat
import Mathlib.Data.List.Forall2

/-!
# Blocks of lines

A block is a text whose first line and whose last line are not blank. Trimming a block takes no line
break off it, so it stays a block of as many lines. Blocks that are put one below the other are a
block, and their lines add up.

Main definitions:
* `lineCount`: how many lines a text has.
* `Opens`: the first line of a text is not blank.
* `IsBlock`: a text is a block of so many lines.

Results:
* `IsBlock.trim`, `IsBlock.trimEnd`: trimming a block.
* `IsBlock.lead`, `IsBlock.stack`: something in front of a block, and a block below another.
* `IsBlock.intercalate`, `IsBlock.stackEach`: many blocks, one below the other.
-/

namespace CityCards.Text

variable {a b l s t : List Char} {c : Char} {j k : Nat} {ks : List Nat} {ts : List (List Char)}

/-- The number of lines: one more than there are line breaks. -/
def lineCount (s : List Char) : Nat := s.count '\n' + 1

theorem trimStart_append_cons (a b : List Char) (hc : isBlank c = false) :
    trimStart (a ++ c :: b) = trimStart a ++ c :: b := by
  rw [trimStart, trimStart]
  induction a with
  | nil => simp [hc]
  | cons d a ih => by_cases hd : isBlank d = true <;> simp [hd, ih]

theorem trimEnd_append_cons (a b : List Char) (hc : isBlank c = false) :
    trimEnd (a ++ c :: b) = a ++ c :: trimEnd b := by
  have hreverse : (a ++ c :: b).reverse = b.reverse ++ c :: a.reverse := by simp
  have hstart := trimStart_append_cons b.reverse a.reverse hc
  rw [trimStart, trimStart] at hstart
  rw [trimEnd, hreverse, hstart, trimEnd]
  simp

theorem reverse_trimEnd (s : List Char) : (trimEnd s).reverse = trimStart s.reverse :=
  List.reverse_reverse _

theorem reverse_trimStart (s : List Char) : (trimStart s).reverse = trimEnd s.reverse := by
  rw [trimEnd, List.reverse_reverse, trimStart]

/-! ## The first line -/

/-- The first line of the text has a character that is not blank. -/
def Opens (s : List Char) : Prop :=
  ∃ a c b, s = a ++ c :: b ∧ '\n' ∉ a ∧ isBlank c = false

theorem opens_of_mem (hs : '\n' ∉ s) (hmem : c ∈ s) (hc : isBlank c = false) : Opens s := by
  obtain ⟨a, b, rfl⟩ := List.append_of_mem hmem
  exact ⟨a, c, b, rfl, fun ha => hs (List.mem_append_left _ ha), hc⟩

namespace Opens

theorem append (h : Opens s) (t : List Char) : Opens (s ++ t) := by
  obtain ⟨a, c, b, rfl, ha, hc⟩ := h
  exact ⟨a, c, b ++ t, by simp, ha, hc⟩

theorem lead (hl : '\n' ∉ l) (h : Opens s) : Opens (l ++ s) := by
  obtain ⟨a, c, b, rfl, ha, hc⟩ := h
  refine ⟨l ++ a, c, b, by simp, ?_, hc⟩
  rw [List.mem_append]
  exact fun hmem => hmem.elim hl ha

theorem head?_ne (h : Opens s) : s.head? ≠ some '\n' := by
  obtain ⟨_ | ⟨d, a⟩, c, b, rfl, ha, hc⟩ := h
  · rintro ⟨⟩
    cases hc
  · rintro ⟨⟩
    exact ha List.mem_cons_self

theorem trimStart (h : Opens s) : Opens (trimStart s) := by
  obtain ⟨a, c, b, rfl, ha, hc⟩ := h
  rw [trimStart_append_cons a b hc]
  exact ⟨_, c, b, rfl, fun hmem => ha ((List.dropWhile_sublist _).mem hmem), hc⟩

theorem trimEnd (h : Opens s) : Opens (trimEnd s) := by
  obtain ⟨a, c, b, rfl, ha, hc⟩ := h
  rw [trimEnd_append_cons a b hc]
  exact ⟨a, c, _, rfl, ha, hc⟩

/-- What is taken off in front of a text stands in its first line. -/
theorem lineCount_trimStart (h : Opens s) : lineCount (Text.trimStart s) = lineCount s := by
  obtain ⟨a, c, b, rfl, ha, hc⟩ := h
  have hrest : '\n' ∉ Text.trimStart a := fun hmem => ha ((List.dropWhile_sublist _).mem hmem)
  rw [trimStart_append_cons a b hc, lineCount, lineCount, List.count_append, List.count_append,
    List.count_eq_zero_of_not_mem ha, List.count_eq_zero_of_not_mem hrest]

end Opens

theorem lineCount_reverse (s : List Char) : lineCount s.reverse = lineCount s := by
  rw [lineCount, lineCount, List.count_reverse]

/-! ## Blocks -/

/-- The text has so many lines, and the first and the last of them are not blank. -/
structure IsBlock (k : Nat) (s : List Char) : Prop where
  opens : Opens s
  closes : Opens s.reverse
  lines : lineCount s = k

theorem isBlock_line (hs : '\n' ∉ s) (hmem : c ∈ s) (hc : isBlank c = false) : IsBlock 1 s where
  opens := opens_of_mem hs hmem hc
  closes := opens_of_mem (by rwa [List.mem_reverse]) (List.mem_reverse.mpr hmem) hc
  lines := by rw [lineCount, List.count_eq_zero_of_not_mem hs]

namespace IsBlock

theorem reverse (h : IsBlock k s) : IsBlock k s.reverse where
  opens := h.closes
  closes := by rw [List.reverse_reverse]; exact h.opens
  lines := by rw [lineCount_reverse, h.lines]

theorem trimStart (h : IsBlock k s) : IsBlock k (trimStart s) where
  opens := h.opens.trimStart
  closes := by rw [reverse_trimStart]; exact h.closes.trimEnd
  lines := by rw [h.opens.lineCount_trimStart, h.lines]

theorem trimEnd (h : IsBlock k s) : IsBlock k (trimEnd s) := by
  have hreverse := h.reverse.trimStart.reverse
  rwa [← reverse_trimEnd, List.reverse_reverse] at hreverse

theorem trim (h : IsBlock k s) : IsBlock k (trim s) := h.trimStart.trimEnd

/-- Something without a line break in front of a block. -/
theorem lead (hl : '\n' ∉ l) (h : IsBlock k s) : IsBlock k (l ++ s) where
  opens := h.opens.lead hl
  closes := by rw [List.reverse_append]; exact h.closes.append _
  lines := by
    rw [← h.lines, lineCount, lineCount, List.count_append, List.count_eq_zero_of_not_mem hl,
      Nat.zero_add]

/-- One block below another. -/
theorem stack (h : IsBlock j s) (h' : IsBlock k t) : IsBlock (j + k) (s ++ '\n' :: t) where
  opens := h.opens.append _
  closes := by
    rw [List.reverse_append, List.reverse_cons, List.append_assoc]
    exact h'.closes.append _
  lines := by
    rw [← h.lines, ← h'.lines, lineCount, lineCount, lineCount, List.count_append,
      List.count_cons_self]
    omega

/-- Blocks one below the other, with the same in front of each but the first. -/
theorem intercalate (hl : '\n' ∉ l) (h : List.Forall₂ IsBlock ks ts) (hne : ts ≠ []) :
    IsBlock ks.sum (('\n' :: l).intercalate ts) := by
  induction h with
  | nil => exact absurd rfl hne
  | cons hfirst hrest ih =>
    rw [List.sum_cons]
    cases hrest with
    | nil => simpa using hfirst
    | cons _ _ =>
      rw [List.intercalate_cons_cons, List.append_assoc, List.cons_append]
      exact hfirst.stack ((ih (List.cons_ne_nil _ _)).lead hl)

/-- Blocks one below the other, each changed into a block of as many lines and followed by a line
break. One more line break is left over at the end. -/
theorem stackEach {f : Nat → List Char → List Char}
    (hf : ∀ i k t, IsBlock k t → IsBlock k (f i t)) (h : IsBlock j s)
    (hts : List.Forall₂ IsBlock ks ts) :
    ∃ t, s ++ '\n' :: (ts.mapIdx fun i t => f i t ++ ['\n']).flatten = t ++ ['\n'] ∧
      IsBlock (j + ks.sum) t := by
  induction hts generalizing f j s with
  | nil => exact ⟨s, rfl, h⟩
  | @cons k t ks ts hfirst _ ih =>
    obtain ⟨text, htext, hblock⟩ :=
      ih (fun i => hf (i + 1)) (h.stack (hf 0 k t hfirst))
    refine ⟨text, ?_, ?_⟩
    · rw [← htext, List.mapIdx_cons, List.flatten_cons]
      simp
    · rwa [List.sum_cons, ← Nat.add_assoc]

end IsBlock

end CityCards.Text
