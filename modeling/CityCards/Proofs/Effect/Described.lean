import CityCards.Effect.Rendering
import CityCards.Proofs.Text.InTurn

/-!
# Descriptions in the text of an effect

The text of a tree holds the descriptions of its nodes and conditions, trimmed, in the order in
which the tree is read. Options and repeated bodies are trimmed before they are put into the text,
and the text of a choice is trimmed at its end, which leaves a trimmed description as it is.

Main definitions:
* `Effect.descriptions`: the descriptions of a tree in the order of reading.

Results:
* `Effect.inTurn_renderChars`: they stand in the text one after the other.
* `Effect.render_cut_at_descriptions`: the text as descriptions and what is between them.
-/

namespace CityCards

open Text (InTurn)

namespace Effect

mutual

/-- The descriptions that are met when a tree is read from its beginning to its end. What a
composite is described as is not read. -/
def descriptions : Effect → List String
  | .basic b => [b.description]
  | .conditional c t f _ => c.description :: (descriptions t ++ descriptionsOption f)
  | .multi bs d _ => (descriptionsBranches bs).flatten ++ descriptionsOption d
  | .choice d _ _ os _ => d :: (descriptionsList os).flatten
  | .forEach _ b d _ => d :: descriptions b
  | .composite es _ _ => (descriptionsList es).flatten
termination_by structural e => e

/-- The descriptions of a tree that may be missing. -/
def descriptionsOption : Option Effect → List String
  | none => []
  | some e => descriptions e
termination_by structural o => o

/-- The descriptions of each of several trees. -/
def descriptionsList : List Effect → List (List String)
  | [] => []
  | e :: rest => descriptions e :: descriptionsList rest
termination_by structural es => es

/-- The descriptions of each branch, that of its condition before those of its effect. -/
def descriptionsBranches : List (Condition × Effect) → List (List String)
  | [] => []
  | (c, e) :: rest => (c.description :: descriptions e) :: descriptionsBranches rest
termination_by structural bs => bs

end

/-- Descriptions as they stand in a text. -/
def trimmed (ds : List String) : List (List Char) := ds.map fun d => Text.trim d.toList

theorem trimmed_cons (d : String) (ds : List String) :
    trimmed (d :: ds) = trimmed [d] ++ trimmed ds := rfl

theorem trimmed_append (ds ds' : List String) :
    trimmed (ds ++ ds') = trimmed ds ++ trimmed ds' := List.map_append

theorem trimmed_flatten (dss : List (List String)) :
    trimmed dss.flatten = (dss.map trimmed).flatten := List.map_flatten

theorem isTight_of_mem_trimmed {ds : List String} : ∀ d ∈ trimmed ds, Text.IsTight d := by
  intro d hd
  obtain ⟨s, -, rfl⟩ := List.mem_map.mp hd
  exact Text.isTight_trim s.toList

/-! ## Parts of the text -/

/-- Where a description is put into a text, it stands there trimmed too. -/
theorem inTurn_description (before after : List Char) (d : String) :
    InTurn (trimmed [d]) (before ++ d.toList ++ after) :=
  ((InTurn.of_isInfix (Text.isInfix_trim d.toList)).before before).after after

theorem inTurn_header (n : Nat) (lead : List Char) (c : Condition) :
    InTurn (trimmed [c.description]) (header n (lead ++ c.description.toList)) := by
  rw [header, ← List.append_assoc]
  exact inTurn_description _ _ _

theorem inTurn_optionLines {dss : List (List String)} {ts : List (List Char)} (n : Nat)
    (h : List.Forall₂ InTurn (dss.map trimmed) ts) :
    InTurn (dss.map trimmed).flatten (optionLines n ts) := by
  refine InTurn.flatten_mapIdx (fun i ds hds t ht => ?_) h
  obtain ⟨ds, -, rfl⟩ := List.mem_map.mp hds
  exact ((ht.trim isTight_of_mem_trimmed).before _).after _

/-! ## The text of a tree -/

mutual

/-- The text of a tree holds the descriptions of the tree. -/
theorem inTurn_renderChars (e : Effect) (n : Nat) :
    InTurn (trimmed e.descriptions) (e.renderChars n) := by
  cases e with
  | basic b =>
    have h := inTurn_description (indentation n) [] b.description
    rwa [List.append_nil] at h
  | conditional c t f m =>
    rw [descriptions, trimmed_cons, trimmed_append, ← List.append_assoc]
    have hthen := (inTurn_header n [] c).append (inTurn_renderChars t (n + 1))
    exact hthen.append (inTurn_renderElse _ f n)
  | multi bs d m =>
    rw [descriptions, trimmed_append, trimmed_flatten]
    exact (InTurn.intercalate _ (inTurn_renderBranches [] bs n)).append (inTurn_renderElse _ d n)
  | choice d lo hi os m =>
    have hall : InTurn (trimmed (d :: (descriptionsList os).flatten))
        (indentation n ++ d.toList ++ ['\n'] ++ optionLines n (renderList os 0)) := by
      rw [trimmed_cons, trimmed_flatten]
      exact (inTurn_description _ _ d).append (inTurn_optionLines n (inTurn_renderList os 0))
    exact hall.trimEnd isTight_of_mem_trimmed
  | forEach t b d m =>
    rw [descriptions, trimmed_cons]
    have hbody := (inTurn_renderChars b 0).trim isTight_of_mem_trimmed
    exact (inTurn_description (indentation n) [':', ' '] d).append hbody
  | composite es d m =>
    rw [descriptions, trimmed_flatten]
    exact InTurn.intercalate _ (inTurn_renderList es n)

theorem inTurn_renderElse (title : List Char) (o : Option Effect) (n : Nat) :
    InTurn (trimmed (descriptionsOption o)) (renderElse title o n) := by
  cases o with
  | none => exact .nil _
  | some e => exact (inTurn_renderChars e (n + 1)).before _

theorem inTurn_renderList (es : List Effect) (n : Nat) :
    List.Forall₂ InTurn ((descriptionsList es).map trimmed) (renderList es n) := by
  cases es with
  | nil => exact .nil
  | cons e rest => exact .cons (inTurn_renderChars e n) (inTurn_renderList rest n)

theorem inTurn_renderBranches (lead : List Char) (bs : List (Condition × Effect)) (n : Nat) :
    List.Forall₂ InTurn ((descriptionsBranches bs).map trimmed) (renderBranches lead bs n) := by
  match bs with
  | [] => exact .nil
  | (c, e) :: rest =>
    have hfirst := (inTurn_header n lead c).append (inTurn_renderChars e (n + 1))
    exact .cons hfirst (inTurn_renderBranches "De lo contrario, ".toList rest n)

end

/-- The text of a tree is the trimmed descriptions with other text in front of the first and behind
each of them. So none is lost, cut or written over another, and they keep their order. -/
theorem render_cut_at_descriptions (e : Effect) (indent : Nat) :
    ∃ (start : List Char) (others : List (List Char)),
      others.length = e.descriptions.length ∧
      (e.render indent).toList =
        start ++ (List.zipWith (· ++ ·) (trimmed e.descriptions) others).flatten := by
  obtain ⟨start, others, hlength, htext⟩ := Text.inTurn_iff.mp (e.inTurn_renderChars indent)
  refine ⟨start, others, ?_, ?_⟩
  · rwa [trimmed, List.length_map] at hlength
  · rw [render, String.toList_ofList, htext]

end Effect

end CityCards
