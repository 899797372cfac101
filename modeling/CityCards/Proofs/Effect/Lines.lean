import CityCards.Effect.Rendering
import CityCards.Proofs.Effect.Exactness
import CityCards.Proofs.Text.Block

/-!
# The lines of the text of an effect

If descriptions have no line breaks, then every description that is not that of a repeated effect
has a line of its own, and so has every word for other cases. No line is lost where options and
repeated bodies are trimmed, and none is added where texts are joined: the text of a sound tree is a
block, and the blocks of its parts are put one below the other.

Main definitions:
* `Effect.lines`: how many lines the text of a tree has.
* `Effect.ownDescriptions`, `Effect.askedAs?`: the descriptions that belong to a node.

Results:
* `Effect.isBlock_renderChars`: the text of a tree is a block.
* `Effect.render_lines`: what that means for sound trees.
-/

namespace CityCards

open Text (IsBlock Opens)

theorem newline_not_mem_indentation (n : Nat) : '\n' ∉ indentation n := by
  rw [indentation, List.mem_replicate]
  rintro ⟨-, ⟨⟩⟩

theorem newline_not_mem_append {s t : List Char} (hs : '\n' ∉ s) (ht : '\n' ∉ t) :
    '\n' ∉ s ++ t := by
  rw [List.mem_append]
  exact fun hmem => hmem.elim hs ht

/-- Letters start at `A`, and what takes the place of a letter is no line break either. -/
theorem optionLetter_ne_newline (i : Nat) : optionLetter i ≠ '\n' := by
  intro h
  rw [optionLetter] at h
  split at h
  · rename_i hvalid
    have hcode := congrArg Char.toNat h
    rw [Char.ofNat, dif_pos hvalid] at hcode
    have hsum : 65 + i = 10 := hcode
    omega
  · contradiction

namespace Effect

/-! ## Counting lines -/

mutual

/-- The lines of the text of a tree. A condition stands on a line of its own, and so do the words
for other cases and the description of a choice; a repeated body goes on the line of what it is
repeated for. -/
def lines : Effect → Nat
  | .basic _ => 1
  | .conditional _ t f _ => 1 + lines t + linesElse f
  | .multi bs d _ => (linesBranches bs).sum + linesElse d
  | .choice _ _ _ os _ => 1 + (linesList os).sum
  | .forEach _ b _ _ => lines b
  | .composite es _ _ => (linesList es).sum
termination_by structural e => e

/-- The lines of what is done where no condition holds. -/
def linesElse : Option Effect → Nat
  | none => 0
  | some e => 1 + lines e
termination_by structural o => o

/-- The lines of the texts of several trees. -/
def linesList : List Effect → List Nat
  | [] => []
  | e :: rest => lines e :: linesList rest
termination_by structural es => es

/-- The lines of the texts of branches. -/
def linesBranches : List (Condition × Effect) → List Nat
  | [] => []
  | (_, e) :: rest => (1 + lines e) :: linesBranches rest
termination_by structural bs => bs

end

/-! ## Descriptions of a node -/

/-- The descriptions that the node adds to the text: its own, or those of its conditions. That of a
composite does not appear there. -/
def ownDescriptions : Effect → List String
  | .basic b => [b.description]
  | .conditional c _ _ _ => [c.description]
  | .multi bs _ _ => bs.map fun b => b.1.description
  | .choice d _ _ _ _ => [d]
  | .forEach _ _ d _ => [d]
  | .composite .. => []

/-- What the player is asked, if the node is a choice. -/
def askedAs? : Effect → Option String
  | .choice d _ _ _ _ => some d
  | _ => none

/-- The text of the node is put together of blocks: no description that it adds has a line break,
its first line is not blank, and there is something for it to put together. -/
structure IsLined (e : Effect) : Prop where
  unbroken : ∀ d ∈ e.ownDescriptions, '\n' ∉ d.toList
  asked : ∀ d ∈ e.askedAs?, Text.isBlankText d = false
  sound : e.flaws = []

theorem exists_of_isBlankText {s : String} (h : Text.isBlankText s = false) :
    ∃ c ∈ s.toList, Text.isBlank c = false := by
  simpa [Text.isBlankText] using h

namespace IsLined

variable {n : Nat}

theorem isBlock_basic {b : Basic} (h : (basic b).IsLined) :
    IsBlock 1 (indentation n ++ b.description.toList) := by
  have hblank : Text.isBlankText b.description = false :=
    flawIf_eq_nil_iff.mp (List.append_eq_nil_iff.mp h.sound).1
  obtain ⟨c, hmem, hc⟩ := exists_of_isBlankText hblank
  have hline := Text.isBlock_line (h.unbroken _ List.mem_cons_self) hmem hc
  exact hline.lead (newline_not_mem_indentation n)

theorem isBlock_asked {d : String} {lo hi : UInt32} {os : List Effect} {m : Marks}
    (h : (choice d lo hi os m).IsLined) : IsBlock 1 (indentation n ++ d.toList) := by
  obtain ⟨c, hmem, hc⟩ := exists_of_isBlankText (h.asked d rfl)
  have hline := Text.isBlock_line (h.unbroken _ List.mem_cons_self) hmem hc
  exact hline.lead (newline_not_mem_indentation n)

theorem branches_ne_nil {bs : List (Condition × Effect)} {d : Option Effect} {m : Marks}
    (h : (multi bs d m).IsLined) : bs ≠ [] := by
  rintro rfl
  exact (flaws_eq_nil_iff _).mp h.sound _ _ .noBranches

theorem members_ne_nil {es : List Effect} {d : Option String} {m : Marks}
    (h : (composite es d m).IsLined) : es ≠ [] := by
  rintro rfl
  exact (flaws_eq_nil_iff _).mp h.sound _ _ .noMembers

end IsLined

/-! ## Parts of the text -/

section

variable {n k : Nat} {s t : List Char}

/-- A block below a header, which is never blank since it ends in a colon. -/
theorem isBlock_header (n : Nat) (hs : '\n' ∉ s) (h : IsBlock k t) :
    IsBlock (1 + k) (header n s ++ t) := by
  have hcolon : '\n' ∉ indentation n ++ s ++ [':'] :=
    newline_not_mem_append (newline_not_mem_append (newline_not_mem_indentation n) hs) (by decide)
  have hline : IsBlock 1 (indentation n ++ s ++ [':']) :=
    Text.isBlock_line hcolon (List.mem_append_right _ List.mem_cons_self) rfl
  have hstack := hline.stack h
  rw [header]
  simpa using hstack

theorem newline_not_mem_optionLead (n i : Nat) :
    '\n' ∉ indentation n ++ [optionLetter i, ')', ' '] := by
  refine newline_not_mem_append (newline_not_mem_indentation n) ?_
  simp [(optionLetter_ne_newline i).symm]

/-- The options of a choice below what is asked. The last line break is taken off. -/
theorem isBlock_options {ks : List Nat} {ts : List (List Char)} (n : Nat) (h : IsBlock 1 s)
    (hts : List.Forall₂ IsBlock ks ts) :
    IsBlock (1 + ks.sum) (Text.trimEnd (s ++ ['\n'] ++ optionLines n ts)) := by
  have hoption (i k : Nat) (t : List Char) (ht : IsBlock k t) :
      IsBlock k (indentation n ++ [optionLetter i, ')', ' '] ++ Text.trim t) :=
    ht.trim.lead (newline_not_mem_optionLead n i)
  obtain ⟨text, htext, hblock⟩ := h.stackEach hoption hts
  rw [List.append_assoc, List.singleton_append, optionLines, htext,
    Text.trimEnd_append_blank text rfl]
  exact hblock.trimEnd

end

/-! ## The text of a tree -/

theorem renderList_eq_nil_iff {es : List Effect} {n : Nat} : renderList es n = [] ↔ es = [] := by
  cases es <;> simp [renderList]

theorem renderBranches_eq_nil_iff {lead : List Char} {bs : List (Condition × Effect)} {n : Nat} :
    renderBranches lead bs n = [] ↔ bs = [] := by
  cases bs <;> simp [renderBranches]

mutual

/-- The text of a tree is a block. -/
theorem isBlock_renderChars (e : Effect) (h : ∀ x ∈ e.walk, x.IsLined) (n : Nat) :
    IsBlock e.lines (e.renderChars n) := by
  have hroot : e.IsLined := h e (by rw [walk_eq]; exact List.mem_cons_self)
  cases e with
  | basic b => exact hroot.isBlock_basic
  | conditional c t f m =>
    simp only [walk, List.mem_cons, List.mem_append] at h
    have ht := isBlock_renderChars t (fun x hx => h x (.inr (.inl hx))) (n + 1)
    have hthen := isBlock_header n (hroot.unbroken _ List.mem_cons_self) ht
    exact isBlock_renderElse hthen _ (by decide) f (fun x hx => h x (.inr (.inr hx))) n
  | multi bs d m =>
    simp only [walk, List.mem_cons, List.mem_append] at h
    have hbs := isBlock_renderBranches [] (by decide) bs hroot.unbroken
      (fun x hx => h x (.inr (.inl hx))) n
    have hjoined := IsBlock.intercalate (l := []) (by decide) hbs
      (mt renderBranches_eq_nil_iff.mp hroot.branches_ne_nil)
    exact isBlock_renderElse hjoined _ (by decide) d (fun x hx => h x (.inr (.inr hx))) n
  | choice d lo hi os m =>
    simp only [walk, List.mem_cons] at h
    have hos := isBlock_renderList os (fun x hx => h x (.inr hx)) 0
    exact isBlock_options n hroot.isBlock_asked hos
  | forEach t b d m =>
    simp only [walk, List.mem_cons] at h
    have hb := isBlock_renderChars b (fun x hx => h x (.inr hx)) 0
    have hlead : '\n' ∉ indentation n ++ d.toList ++ [':', ' '] :=
      newline_not_mem_append (newline_not_mem_append (newline_not_mem_indentation n)
        (hroot.unbroken _ List.mem_cons_self)) (by decide)
    exact hb.trim.lead hlead
  | composite es d m =>
    simp only [walk, List.mem_cons] at h
    have hes := isBlock_renderList es (fun x hx => h x (.inr hx)) n
    have hlead : '\n' ∉ indentation n ++ "Luego: ".toList :=
      newline_not_mem_append (newline_not_mem_indentation n) (by decide)
    exact IsBlock.intercalate hlead hes (mt renderList_eq_nil_iff.mp hroot.members_ne_nil)
termination_by structural e

theorem isBlock_renderElse {k : Nat} {s : List Char} (hs : IsBlock k s) (title : List Char)
    (htitle : '\n' ∉ title) (o : Option Effect) (h : ∀ x ∈ walkOption o, x.IsLined) (n : Nat) :
    IsBlock (k + linesElse o) (s ++ renderElse title o n) := by
  cases o with
  | none =>
    rw [renderElse, List.append_nil]
    exact hs
  | some e =>
    have he := isBlock_renderChars e h (n + 1)
    exact hs.stack (isBlock_header n htitle he)
termination_by structural o

theorem isBlock_renderList (es : List Effect) (h : ∀ x ∈ walkList es, x.IsLined) (n : Nat) :
    List.Forall₂ IsBlock (linesList es) (renderList es n) := by
  cases es with
  | nil => exact .nil
  | cons e rest =>
    simp only [walkList, List.mem_append] at h
    exact .cons (isBlock_renderChars e (fun x hx => h x (.inl hx)) n)
      (isBlock_renderList rest (fun x hx => h x (.inr hx)) n)
termination_by structural es

theorem isBlock_renderBranches (lead : List Char) (hlead : '\n' ∉ lead)
    (bs : List (Condition × Effect))
    (hbs : ∀ d ∈ bs.map fun b => b.1.description, '\n' ∉ d.toList)
    (h : ∀ x ∈ walkBranches bs, x.IsLined) (n : Nat) :
    List.Forall₂ IsBlock (linesBranches bs) (renderBranches lead bs n) := by
  match bs with
  | [] => exact .nil
  | (c, e) :: rest =>
    simp only [walkBranches, List.mem_append] at h
    simp only [List.map_cons, List.forall_mem_cons] at hbs
    have he := isBlock_renderChars e (fun x hx => h x (.inl hx)) (n + 1)
    exact .cons (isBlock_header n (newline_not_mem_append hlead hbs.1) he)
      (isBlock_renderBranches _ (by decide) rest hbs.2 (fun x hx => h x (.inr hx)) n)
termination_by structural bs

end

/-- If a tree is sound, no description has a line break and no choice is asked without words, then
the text of the tree has as many lines as its parts ask for, at every indentation. It neither begins
nor ends with a line break. -/
theorem render_lines {e : Effect} (hsound : e.isSound = true)
    (hunbroken : ∀ n ∈ e.walk, ∀ d ∈ n.ownDescriptions, '\n' ∉ d.toList)
    (hasked : ∀ n ∈ e.walk, ∀ d ∈ n.askedAs?, Text.isBlankText d = false) (indent : Nat) :
    Text.lineCount (e.render indent).toList = e.lines ∧
      (e.render indent).toList.head? ≠ some '\n' ∧
      (e.render indent).toList.getLast? ≠ some '\n' := by
  have hlined : ∀ n ∈ e.walk, n.IsLined := by
    intro n hn
    refine ⟨hunbroken n hn, hasked n hn, ?_⟩
    rw [← nodes_map_snd] at hn
    obtain ⟨x, hx, rfl⟩ := List.mem_map.mp hn
    exact e.isSound_iff_nodes.mp hsound x hx
  have hblock := isBlock_renderChars e hlined indent
  rw [render, String.toList_ofList, ← List.head?_reverse]
  exact ⟨hblock.lines, hblock.opens.head?_ne, hblock.closes.head?_ne⟩

/-- Nodes of every shape, the choice and the repeated effect with more than a line in them. -/
def assembly : Effect :=
  sequence [
    oneOf "Elige uno:" [
      .multi [(.custom "Si hay hambre", .plain .changeHunger "Baja el hambre"),
        (.custom "Si hay estrés", .plain .changeStress "Baja el estrés")]
        (some (.plain .heal "Cura a un enfermo")) .none,
      .conditional (.custom "Si hay trabajo") (.plain .introduceLaw "Legisla")
        (some (.plain .buildBuilding "Construye")) .none],
    .forEach "justicia_activa" (sequence [.plain .heal "Cura", .plain .changeHunger "Come"])
      "Por cada Justicia" .none]

/-- The text of all of it, one level in, has thirteen lines. -/
theorem render_lines_assembly :
    assembly.isSound = true ∧
      (∀ n ∈ assembly.walk, ∀ d ∈ n.ownDescriptions, '\n' ∉ d.toList) ∧
      (∀ n ∈ assembly.walk, ∀ d ∈ n.askedAs?, Text.isBlankText d = false) ∧
      Text.lineCount (assembly.render 1).toList = 13 := by
  have hsound : assembly.isSound = true := by decide +kernel
  have hunbroken : ∀ n ∈ assembly.walk, ∀ d ∈ n.ownDescriptions, '\n' ∉ d.toList := by
    decide +kernel
  have hasked : ∀ n ∈ assembly.walk, ∀ d ∈ n.askedAs?, Text.isBlankText d = false := by
    decide +kernel
  exact ⟨hsound, hunbroken, hasked, (render_lines hsound hunbroken hasked 1).1⟩

end Effect

end CityCards
