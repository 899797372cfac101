import CityCards.Play.Scripted
import CityCards.Proofs.Catalog.Registration
import CityCards.Proofs.Play.Silent

/-!
# What walking through a tree covers

The nodes of a tree are listed without resolving it, in one walk. Whatever is decided and chosen on
the way, a resolution has the handler do nothing but what a node of this walk asks for. So the cards
that a tree may add to the deck are known beforehand, and if a catalog has all cards that its cards
may add, no resolution of a card adds one that is missing.

Main definitions:
* `Call.node`: the node that asks for a call.
* `Call.addedCardId?`: the card that a call adds to the deck.
* `Resolve.CoveredBy`: all calls up to now are asked for by nodes of a tree.

Results:
* `Effect.node_mem_walk`: every call of a resolution is asked for by a node of the tree.
* `Catalog.missingRefs_eq_nil_iff`: when no card is missing from a catalog.
* `Catalog.covers_offerAll`: what that means for resolving the cards of a catalog.
-/

namespace CityCards

namespace Call

/-- The node that asks for the call. -/
def node : Call → Effect
  | .applied b _ _ => .basic b
  | .asked c _ => c.toEffect

/-- The card that the call adds to the deck. -/
def addedCardId? : Call → Option String
  | .applied b _ _ => if b.kind = .addCardToDeck then b.cardId else none
  | .asked .. => none

/-- The card that a call adds is one of those that a tree adds, if the tree has the node. -/
theorem mem_addedCardIds {call : Call} {e : Effect} {id : String} (hnode : call.node ∈ e.walk)
    (hid : call.addedCardId? = some id) : id ∈ e.addedCardIds := by
  rw [Effect.addedCardIds, List.mem_filterMap]
  cases call with
  | applied b before answer => exact ⟨.basic b, hnode, hid⟩
  | asked c answer => cases hid

end Call

/-! ## Calls and nodes -/

namespace Resolve

variable {σ α : Type}

/-- All calls up to now are asked for by nodes of the tree. -/
def CoveredBy (e : Effect) (run : Run σ) : Prop := ∀ call ∈ run.calls, call.node ∈ e.walk

/-- The part keeps to what the nodes of the tree ask for, also if it fails. -/
abbrev KeepsCovered (e : Effect) (m : Resolve σ α) : Prop :=
  Keeps (CoveredBy e) (fun _ => CoveredBy e) m

theorem CoveredBy.snoc {e : Effect} {run run' : Run σ} {call : Call} (h : CoveredBy e run)
    (hcalls : run'.calls = run.calls ++ [call]) (hcall : call.node ∈ e.walk) :
    CoveredBy e run' := by
  intro c hc
  rw [hcalls, List.mem_append, List.mem_singleton] at hc
  rcases hc with hold | rfl
  · exact h c hold
  · exact hcall

theorem Silent.keepsCovered {m : (σ : Type) → Resolve σ α} (hm : Silent m) (e : Effect) :
    KeepsCovered e (m σ) := by
  intro run hrun
  have hcalls := (hm.same run).calls
  have hcovered : CoveredBy e (exec (m σ) run).2 := by rwa [CoveredBy, hcalls]
  generalize exec (m σ) run = outcome at hcovered ⊢
  obtain ⟨_ | a, run'⟩ := outcome <;> exact hcovered

theorem keepsCovered_applyBasic (h : Handler σ) {b : Basic} {e : Effect}
    (hb : .basic b ∈ e.walk) : KeepsCovered e (applyBasic h b) := by
  intro run hrun
  rw [exec_applyBasic]
  rcases h.applyBasic b run.game run.player with ⟨_ | _, game, player⟩ <;> exact hrun.snoc rfl hb

theorem keepsCovered_choose (r : Rules) (h : Handler σ) {c : Choice} {e : Effect}
    (hc : c.toEffect ∈ e.walk) : KeepsCovered e (choose r h c) := by
  refine keeps_bind (fun run hrun => ?_) fun is =>
    keeps_bind ((silent_count r .chosen).keepsCovered e) fun _ => ?_
  · rw [exec_makeChoice]
    rcases h.makeChoice c run.player with ⟨_ | _, player⟩ <;> exact hrun.snoc rfl hc
  · cases select (List.finRange c.options.length) is with
    | ok ps => exact keeps_pure ps
    | error err => exact (silent_throw err).keepsCovered e

/-- What is done at a node of the tree is asked for by this node. -/
theorem visit_keepsCovered (r : Rules) (h : Handler σ) (depth : Nat) {e node : Effect}
    (hnode : node ∈ e.walk) :
    VisitRelated (fun _ m (_ : Resolve σ _) => KeepsCovered e m) r r h h depth node := by
  refine ⟨(silent_checkDepth r depth).keepsCovered e,
    fun entry _ => (silent_count r entry).keepsCovered e, ?_⟩
  cases node with
  | basic b => exact keepsCovered_applyBasic h hnode
  | conditional c t f m => exact (silent_test r c).keepsCovered e
  | multi bs d m => exact fun b _ => (silent_test r b.1).keepsCovered e
  | choice d lo hi os m => exact keepsCovered_choose r h (c := ⟨d, lo, hi, os, m⟩) hnode
  | forEach t b d m => exact (silent_tally r t).keepsCovered e
  | composite es d m => trivial

end Resolve

open Resolve

namespace Effect

variable {σ : Type} (e : Effect) (r : Rules) (h : Handler σ) (g : GameState) (s : σ)

/-- Every call of a resolution is asked for by a node of the tree. -/
theorem node_mem_walk {call : Call} (hcall : call ∈ (e.resolve r h g s).calls) :
    call.node ∈ e.walk := by
  have hkeeps : KeepsCovered e (resolveAt r h 0 e) :=
    resolveAt_related (sequential_keeps _ _) [] e
      fun x hx => visit_keepsCovered r h x.1.length (snd_mem_walk hx)
  have hstart : CoveredBy e (.start g s) := by simp [CoveredBy, Run.start]
  exact hkeeps.exec_snd hstart call hcall

end Effect

/-! ## Cards of a catalog -/

namespace Catalog

variable {c : Catalog}

theorem missingRefs_eq_nil_iff :
    c.missingRefs = [] ↔ ∀ card ∈ c.cards, ∀ id ∈ card.addedCardIds, c.contains id = true := by
  simp [missingRefs]

/-- Whatever cards have been offered to a catalog: if none of the cards is missing that its cards
may add to the deck, then no resolution of a card, whoever plays, by whatever rules and from
whatever states, adds a card that is not in the catalog. None is missing exactly if the catalog
contains all cards that its cards may add, and these are found by walking through the trees, since
every call of a resolution is asked for by a node of the walk. -/
theorem covers_offerAll (cards : List Card) :
    let c := (empty.offerAll cards).2
    (∀ (e : Effect) (σ : Type) (r : Rules) (h : Handler σ) (g : GameState) (s : σ),
      ∀ call ∈ (e.resolve r h g s).calls, call.node ∈ e.walk ∧
        ∀ id, call.addedCardId? = some id → id ∈ e.addedCardIds) ∧
    (c.missingRefs = [] ↔
      ∀ card ∈ c.cards, ∀ id ∈ card.addedCardIds, c.contains id = true) ∧
    (c.missingRefs = [] → ∀ card ∈ c.cards, ∀ e, card.tree = some e →
      ∀ (σ : Type) (r : Rules) (h : Handler σ) (g : GameState) (s : σ),
      ∀ call ∈ (e.resolve r h g s).calls, ∀ id, call.addedCardId? = some id →
        c.contains id = true ∧ ∃ added ∈ c.cards, added.id = id ∧ c.get? id = some added) := by
  intro c
  have hconsistent : c.Consistent := consistent_empty.offerAll cards
  refine ⟨fun e σ r h g s call hcall => ?_, missingRefs_eq_nil_iff, ?_⟩
  · have hnode := e.node_mem_walk r h g s hcall
    exact ⟨hnode, fun id hid => Call.mem_addedCardIds hnode hid⟩
  · intro hrefs card hcard e htree σ r h g s call hcall id hid
    have hadded : id ∈ card.addedCardIds := by
      rw [Card.addedCardIds, htree]
      exact Call.mem_addedCardIds (e.node_mem_walk r h g s hcall) hid
    have hcontains := missingRefs_eq_nil_iff.mp hrefs card hcard id hadded
    have hfound := hconsistent.contains_eq_isSome id ▸ hcontains
    obtain ⟨added, hget⟩ := Option.isSome_iff_exists.mp hfound
    obtain ⟨hmem, hid'⟩ := hconsistent.get?_eq_some_iff.mp hget
    exact ⟨hcontains, added, hmem, hid', hget⟩

/-- A card by which one of two cards is added, as the player chooses, and these two. -/
def linkedCards : List Card := [
  { Card.blank "OC-01" .sunset "" with
    tree := some (.oneOf "Elige" [.addCard "DS-01" "Protesta", .addCard "DS-02" "Huelga"]) },
  .blank "DS-01" .socialDispute "", .blank "DS-02" .socialDispute ""]

/-- No card is missing, and a player who chooses the second one adds a card of the catalog. -/
theorem covers_linked :
    (empty.offerAll linkedCards).2.missingRefs = [] ∧
      ∃ added ∈ (empty.offerAll linkedCards).2.cards, added.id = "DS-02" ∧
        (empty.offerAll linkedCards).2.get? "DS-02" = some added := by
  have hrefs : (empty.offerAll linkedCards).2.missingRefs = [] := by rfl
  have hcard : linkedCards[0] ∈ (empty.offerAll linkedCards).2.cards := List.mem_cons_self
  obtain ⟨-, -, hcovers⟩ := covers_offerAll linkedCards
  obtain ⟨-, hadded⟩ := hcovers hrefs _ hcard _ rfl Picks ⟨.default, none, .stops⟩
    Script.empty.handler .empty (.listed [[1]])
    (.applied ⟨.addCardToDeck, some "DS-02", "Huelga", .none⟩ .empty (.ok ()))
    (List.mem_cons_of_mem _ List.mem_cons_self) "DS-02" rfl
  exact ⟨hrefs, hadded⟩

end Catalog

end CityCards
