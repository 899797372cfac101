import CityCards.Effect.Lifecycle
import CityCards.Proofs.Effect.Replacement
import CityCards.Proofs.Play.Coverage
import CityCards.Proofs.Play.Visits

/-!
# The marks of a tree

The marks of a tree are gathered without resolving it: a mark is found exactly if some node has it,
wherever the node stands. So they cover the marks of all nodes that a resolution visits. If a part
of the tree is replaced by another, the marks of what stands around it stay, and those of the other
come to them.

Main definitions:
* `Marks.has`, `Marks.Covers`: which of the two marks there are.
* `Effect.gathered`: the marks of several nodes together.
* `Effect.marksAround`: the marks of the nodes that are not below a place.

Results:
* `Effect.has_allMarks`: a mark of the tree is the mark of some node.
* `Effect.allMarks_replaceAt`: the marks after replacing a part.
* `Effect.allMarks_everywhere`: what that means for trees and their resolutions.
-/

namespace CityCards

/-- What a node may ask for. -/
inductive Mark where
  | discard
  | remove
  deriving DecidableEq, Repr

namespace Marks

/-- The mark is among them. -/
def has (m : Marks) : Mark → Bool
  | .discard => m.discard
  | .remove => m.remove

/-- All marks of the second are among the first. -/
def Covers (m n : Marks) : Prop := ∀ k, n.has k = true → m.has k = true

theorem ext_has {m n : Marks} (h : ∀ k, m.has k = true ↔ n.has k = true) : m = n := by
  obtain ⟨discard, remove⟩ := m
  obtain ⟨discard', remove'⟩ := n
  have hdiscard : discard = discard' := Bool.eq_iff_iff.mpr (h .discard)
  have hremove : remove = remove' := Bool.eq_iff_iff.mpr (h .remove)
  rw [hdiscard, hremove]

theorem has_none (k : Mark) : none.has k = false := by cases k <;> rfl

theorem has_union (m n : Marks) (k : Mark) : (m.union n).has k = (m.has k || n.has k) := by
  cases k <;> rfl

end Marks

namespace Effect

/-- The marks of all these nodes together, without those of the nodes below them. -/
def gathered (ns : List Effect) : Marks := ns.foldl (fun m n => m.union n.marks) .none

theorem has_foldl_union (ns : List Effect) (m : Marks) (k : Mark) :
    (ns.foldl (fun m n => m.union n.marks) m).has k =
      (m.has k || ns.any fun n => n.marks.has k) := by
  induction ns generalizing m with
  | nil => simp
  | cons n rest ih => rw [List.foldl_cons, ih, Marks.has_union, List.any_cons, Bool.or_assoc]

theorem has_gathered {ns : List Effect} {k : Mark} :
    (gathered ns).has k = true ↔ ∃ n ∈ ns, n.marks.has k = true := by
  rw [gathered, has_foldl_union, Marks.has_none, Bool.false_or, List.any_eq_true]

/-! ## Marks of trees -/

section

variable {e old new : Effect} {p : Place} {k : Mark}

/-- The mark is found at the place. -/
def MarkedAt (e : Effect) (k : Mark) (p : Place) : Prop :=
  ∃ m, (e.at? p).map marks = some m ∧ m.has k = true

theorem markedAt_iff : e.MarkedAt k p ↔ ∃ n, e.at? p = some n ∧ n.marks.has k = true := by
  simp [MarkedAt]

/-- A mark of the tree is the mark of some node. -/
theorem has_allMarks : e.allMarks.has k = true ↔ ∃ p, e.MarkedAt k p := by
  refine has_gathered.trans ?_
  simp only [markedAt_iff, ← nodes_map_snd, List.mem_map, Prod.exists, ← mem_nodes_iff]
  constructor
  · rintro ⟨n, ⟨p, n, hn, rfl⟩, hk⟩
    exact ⟨p, n, hn, hk⟩
  · rintro ⟨p, n, hn, hk⟩
    exact ⟨n, ⟨p, n, hn, rfl⟩, hk⟩

/-- The marks of the nodes that do not stand at the place or below it. -/
def marksAround (e : Effect) (p : Place) : Marks :=
  gathered ((e.nodes.filter fun x => !p.isPrefixOf x.1).map Prod.snd)

theorem has_marksAround :
    (e.marksAround p).has k = true ↔ ∃ q, ¬p <+: q ∧ e.MarkedAt k q := by
  refine has_gathered.trans ?_
  simp only [markedAt_iff, List.mem_map, List.mem_filter, Prod.exists, mem_nodes_iff,
    Bool.not_eq_true', ← Bool.not_eq_true, List.isPrefixOf_iff_prefix]
  constructor
  · rintro ⟨n, ⟨q, n, ⟨hn, hq⟩, rfl⟩, hk⟩
    exact ⟨q, hq, n, hn, hk⟩
  · rintro ⟨q, hq, n, hn, hk⟩
    exact ⟨n, ⟨q, n, ⟨hn, hq⟩, rfl⟩, hk⟩

theorem marks_modifyChild (f : Effect → Effect) (s : Segment) (e : Effect) :
    (modifyChild f s e).marks = e.marks := by
  cases e <;> cases s <;> rfl

theorem markedAt_replaceAt_elsewhere {q : Place} (h : ¬p <+: q) :
    (e.replaceAt p new).MarkedAt k q ↔ e.MarkedAt k q := by
  rw [MarkedAt, replaceAt, map_at?_modifyAt marks_modifyChild _ e h]
  rfl

theorem markedAt_replaceAt_append (h : e.at? p = some old) (q : Place) :
    (e.replaceAt p new).MarkedAt k (p ++ q) ↔ new.MarkedAt k q := by
  rw [MarkedAt, at?_replaceAt h]
  rfl

/-- The marks after replacing a part are those around it and those of the new part. -/
theorem allMarks_replaceAt (h : e.at? p = some old) (new : Effect) :
    (e.replaceAt p new).allMarks = (e.marksAround p).union new.allMarks := by
  refine Marks.ext_has fun k => ?_
  rw [Marks.has_union, Bool.or_eq_true, has_allMarks, has_marksAround, has_allMarks]
  constructor
  · rintro ⟨q, hq⟩
    by_cases hprefix : p <+: q
    · obtain ⟨below, rfl⟩ := hprefix
      exact .inr ⟨below, (markedAt_replaceAt_append h below).mp hq⟩
    · exact .inl ⟨q, hprefix, (markedAt_replaceAt_elsewhere hprefix).mp hq⟩
  · rintro (⟨q, hprefix, hq⟩ | ⟨below, hbelow⟩)
    · exact ⟨q, (markedAt_replaceAt_elsewhere hprefix).mpr hq⟩
    · exact ⟨p ++ below, (markedAt_replaceAt_append h below).mpr hbelow⟩

theorem covers_of_mem_walk {n : Effect} (hn : n ∈ e.walk) : e.allMarks.Covers n.marks :=
  fun _ hk => has_gathered.mpr ⟨n, hn, hk⟩

/-- What the marks of a tree ask for: removal if any node does, else discarding if any does. -/
theorem disposition_allMarks (e : Effect) :
    e.allMarks.disposition =
      if ∃ n ∈ e.walk, n.marks.remove = true then .remove
      else if ∃ n ∈ e.walk, n.marks.discard = true then .discard
      else .keep := by
  have hremove : e.allMarks.remove = true ↔ ∃ n ∈ e.walk, n.marks.remove = true :=
    has_gathered (k := .remove)
  have hdiscard : e.allMarks.discard = true ↔ ∃ n ∈ e.walk, n.marks.discard = true :=
    has_gathered (k := .discard)
  simp only [Marks.disposition, hremove, hdiscard]

end

/-- The marks of a tree see every node. A mark is among them exactly if a node at some place has it.
If the tree at some place is replaced, then what comes out are the marks of all nodes elsewhere and
those of the new tree. The marks of all nodes that a resolution visits, and of all nodes for which
it calls the handler, are among them. They ask for removal if any node does, otherwise for
discarding if any node does. -/
theorem allMarks_everywhere (e : Effect) :
    (e.allMarks.discard = true ↔ ∃ p n, e.at? p = some n ∧ n.marks.discard = true) ∧
    (e.allMarks.remove = true ↔ ∃ p n, e.at? p = some n ∧ n.marks.remove = true) ∧
    (∀ p old new, e.at? p = some old →
      (e.replaceAt p new).at? p = some new ∧
      (e.replaceAt p new).allMarks = (e.marksAround p).union new.allMarks) ∧
    (∀ (σ : Type) (r : Rules) (h : Handler σ) (g : GameState) (s : σ),
      (e.visited r h g s).alone = e.resolve r h g s ∧
      (∀ v ∈ e.visits r h g s, e.allMarks.Covers v.node.marks) ∧
      ∀ call ∈ (e.resolve r h g s).calls, e.allMarks.Covers call.node.marks) ∧
    e.allMarks.disposition =
      (if ∃ n ∈ e.walk, n.marks.remove = true then .remove
      else if ∃ n ∈ e.walk, n.marks.discard = true then .discard
      else .keep) := by
  have hmark (k : Mark) :
      e.allMarks.has k = true ↔ ∃ p n, e.at? p = some n ∧ n.marks.has k = true := by
    simp only [has_allMarks, markedAt_iff]
  refine ⟨hmark .discard, hmark .remove, fun p old new hp => ⟨?_, allMarks_replaceAt hp new⟩,
    fun σ r h g s => ⟨e.alone_visited r h g s, fun v hv => ?_, fun call hcall => ?_⟩,
    e.disposition_allMarks⟩
  · have hat := at?_replaceAt hp new []
    rwa [List.append_nil] at hat
  · exact covers_of_mem_walk (snd_mem_walk (e.mem_nodes_of_mem_visits r h g s hv))
  · exact covers_of_mem_walk (e.node_mem_walk r h g s hcall)

/-- A discarding card whose only effect that removes it stands in an option of a member of a branch
that may not be taken. -/
def buried : Effect :=
  .conditional (.custom "¿Fiesta?") (.plain .heal "Cura")
    (some (sequence [.plain .changeHunger "Come",
      oneOf "Elige uno:" [.plain .heal "Cura", (Effect.plain .treat "Trata").removing]]))
    ⟨true, false⟩

/-- Without that effect the card is only discarded. -/
theorem allMarks_everywhere_buried :
    buried.at? [.ifFalse, .member 1, .option 1] = some (Effect.plain .treat "Trata").removing ∧
    buried.allMarks.disposition = .remove ∧
    (buried.replaceAt [.ifFalse, .member 1, .option 1] (.plain .treat "Trata")).allMarks =
      (buried.marksAround [.ifFalse, .member 1, .option 1]).union ⟨false, false⟩ ∧
    (buried.replaceAt [.ifFalse, .member 1, .option 1] (.plain .treat "Trata")).allMarks =
      ⟨true, false⟩ := by
  have hat : buried.at? [.ifFalse, .member 1, .option 1] =
      some (Effect.plain .treat "Trata").removing := rfl
  obtain ⟨-, -, hreplace, -, -⟩ := allMarks_everywhere buried
  exact ⟨hat, by decide +kernel, (hreplace _ _ (.plain .treat "Trata") hat).2, by decide +kernel⟩

end Effect

end CityCards
