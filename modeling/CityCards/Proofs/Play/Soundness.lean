import CityCards.Play.Scripted
import CityCards.Proofs.Catalog.Loading
import CityCards.Proofs.Effect.Violations
import CityCards.Proofs.Play.Related

/-!
# Resolving sound trees

A tree is checked when its card is loaded, and resolved later in whatever state and by whatever
rules. What is checked at a node is just what can go wrong when the node is visited, so a sound tree
never shows an unknown target or a missing operand, and never asks for a card without naming it.

Main definitions:
* `Resolution.Faultless`: nothing shows up that checking the tree rules out.

Results:
* `Effect.visit_of_flaws_eq_nil`: visiting a node without faults.
* `Effect.faultless_of_isSound`: resolving a sound tree.
* `Catalog.isSound_of_ofText`: the trees of a loaded catalog are sound.
* `Catalog.resolve_faultless`: sound trees, and with them the trees of loaded catalogs, are resolved
  without such faults.
-/

namespace CityCards

/-- The diagnostic is of a kind that checking the tree rules out. -/
def Diagnostic.isPreventable : Diagnostic → Bool
  | .unknownTarget _ => true
  | .condition (.missingOperand _ _) => true
  | .condition _ => false

/-- If the handler was asked to bring a card into the deck, it was told which. -/
def Call.NamesCard : Call → Prop
  | .applied b _ _ => b.kind.needsCardId = true → b.cardId.isSome = true
  | .asked _ _ => True

/-- Nothing has shown up that checking the tree rules out. -/
structure Resolution.Faultless {σ : Type} (res : Resolution σ) : Prop where
  not_unknownTarget : ∀ t, res.result ≠ .error (.anomaly (.unknownTarget t))
  not_missingOperand : ∀ c f, res.result ≠ .error (.anomaly (.condition (.missingOperand c f)))
  unknownTarget_not_mem : ∀ report t, res.result = .ok report →
    .unknownTarget t ∉ report.diagnostics
  missingOperand_not_mem : ∀ report c f, res.result = .ok report →
    .condition (.missingOperand c f) ∉ report.diagnostics
  cardId_isSome : ∀ b g answer, .applied b g answer ∈ res.calls →
    b.kind = .addCardToDeck ∨ b.kind = .shuffleCardIntoDeck → b.cardId.isSome = true

/-! ## What is kept from node to node -/

/-- No diagnostic and no call up to here is one that checking the tree rules out. -/
structure Run.Faultless {σ : Type} (run : Run σ) : Prop where
  diagnostics : ∀ d ∈ run.report.diagnostics, d.isPreventable = false
  calls : ∀ call ∈ run.calls, call.NamesCard

/-- The run has been faultless, and the error is not one that checking the tree rules out. -/
def ResolveError.FaultlessAfter {σ : Type} (e : ResolveError) (run : Run σ) : Prop :=
  run.Faultless ∧ ∀ d, e = .anomaly d → d.isPreventable = false

namespace Run.Faultless

variable {σ : Type} {run : Run σ}

theorem note {d : Diagnostic} (h : run.Faultless) (hd : d.isPreventable = false) :
    (run.note d).Faultless := by
  refine ⟨fun d' hd' => ?_, h.calls⟩
  rcases List.mem_append.mp hd' with hold | hnew
  · exact h.diagnostics d' hold
  · rw [List.mem_singleton.mp hnew]
    exact hd

theorem call {run' : Run σ} (h : run.Faultless) (c : Call) (hc : c.NamesCard)
    (hdiagnostics : run'.report.diagnostics = run.report.diagnostics)
    (hcalls : run'.calls = run.calls ++ [c]) : run'.Faultless := by
  refine ⟨hdiagnostics ▸ h.diagnostics, fun c' hc' => ?_⟩
  rw [hcalls] at hc'
  rcases List.mem_append.mp hc' with hold | hnew
  · exact h.calls c' hold
  · rw [List.mem_singleton.mp hnew]
    exact hc

end Run.Faultless

namespace Resolve

variable {σ : Type}

/-- The part keeps a resolution faultless. -/
abbrev KeepsFaultless {α : Type} (m : Resolve σ α) : Prop :=
  Keeps Run.Faultless ResolveError.FaultlessAfter m

theorem keepsFaultless_checkDepth (r : Rules) (depth : Nat) :
    KeepsFaultless (σ := σ) (checkDepth r depth) := by
  intro run hrun
  rw [exec_checkDepth]
  by_cases hd : r.config.allowsDepth depth = true
  · rw [if_pos hd]
    exact hrun
  · rw [if_neg hd]
    exact ⟨hrun, by simp⟩

theorem keepsFaultless_test (r : Rules) {c : Condition} (hc : c.hasFitOperands = true) :
    KeepsFaultless (σ := σ) (test r c) := by
  intro run hrun
  rw [exec_test]
  cases ha : (c.outcome r.custom run.game).anomaly with
  | none => exact hrun
  | some a =>
    have hfit : ¬∃ t f, (c.outcome r.custom run.game).anomaly = some (.missingOperand t f) := by
      rw [← c.hasFitOperands_eq_false_iff r.custom run.game, hc]
      simp
    have hprev : (Diagnostic.condition a).isPreventable = false := by
      cases a with
      | missingOperand t f => exact absurd ⟨t, f, ha⟩ hfit
      | _ => rfl
    dsimp only
    by_cases hs : r.config.strict = true
    · rw [if_pos hs]
      exact ⟨hrun, fun d hd => ResolveError.anomaly.inj hd ▸ hprev⟩
    · rw [if_neg hs]
      exact hrun.note hprev

theorem keepsFaultless_tally (r : Rules) {t : String} (ht : (Tally.parse? t).isSome = true) :
    KeepsFaultless (σ := σ) (tally r t) := by
  intro run hrun
  obtain ⟨target, htarget⟩ := Option.isSome_iff_exists.mp ht
  rw [exec_tally, htarget]
  exact hrun

theorem keepsFaultless_applyBasic (h : Handler σ) {b : Basic}
    (hb : b.kind.needsCardId = true → b.cardId.isSome = true) :
    KeepsFaultless (applyBasic h b) := by
  intro run hrun
  rw [exec_applyBasic]
  rcases h.applyBasic b run.game run.player with ⟨_ | _, game, player⟩
  · exact ⟨hrun.call (.applied b run.game _) hb rfl rfl, by simp⟩
  · exact hrun.call (.applied b run.game _) hb rfl rfl

/-- Counting notes no diagnostic. -/
theorem keepsFaultless_count (r : Rules) {entry : Report} (hentry : entry.diagnostics = []) :
    KeepsFaultless (σ := σ) (count r entry) := by
  intro run hrun
  rw [exec_count]
  by_cases hover : run.report.Overflows r.overflow entry
  · rw [if_pos hover]
    exact ⟨hrun, by simp⟩
  · rw [if_neg hover]
    refine ⟨?_, hrun.calls⟩
    simpa [Report.add, hentry] using hrun.diagnostics

theorem keepsFaultless_choose (r : Rules) (h : Handler σ) (c : Choice) :
    KeepsFaultless (choose r h c) := by
  refine keeps_bind (fun run hrun => ?_) fun is =>
    keeps_bind (keepsFaultless_count r rfl) fun _ run hrun => ?_
  · rw [exec_makeChoice]
    rcases h.makeChoice c run.player with ⟨_ | _, player⟩
    · exact ⟨hrun.call (.asked c _) trivial rfl rfl, by simp⟩
    · exact hrun.call (.asked c _) trivial rfl rfl
  · cases hs : select (List.finRange c.options.length) is with
    | ok ps => exact hrun
    | error e =>
      obtain ⟨i, -, -, rfl⟩ := exists_of_select_eq_error hs
      exact ⟨hrun, by simp⟩

end Resolve

open Resolve

/-! ## Sound trees -/

namespace Effect

variable {σ : Type}

/-- Visiting a node without faults keeps a resolution faultless. -/
theorem visit_of_flaws_eq_nil (r : Rules) (h : Handler σ) (depth : Nat) {e : Effect}
    (he : e.flaws = []) :
    VisitRelated (fun _ m (_ : Resolve σ _) => KeepsFaultless m) r r h h depth e := by
  refine ⟨keepsFaultless_checkDepth r depth, fun _ => keepsFaultless_count r, ?_⟩
  cases e with
  | basic b => exact keepsFaultless_applyBasic h (cardId_isSome_of_flaws_eq_nil he)
  | conditional c t f m => exact keepsFaultless_test r (hasFitOperands_of_conditional he)
  | multi bs d m => exact fun b hb => keepsFaultless_test r (hasFitOperands_of_multi he b hb)
  | choice d lo hi os m => exact keepsFaultless_choose r h ⟨d, lo, hi, os, m⟩
  | forEach t b d m => exact keepsFaultless_tally r (parse?_isSome_of_forEach he)
  | composite es d m => trivial

theorem keepsFaultless_resolveAt (r : Rules) (h : Handler σ) {e : Effect}
    (he : e.isSound = true) : KeepsFaultless (resolveAt r h 0 e) := by
  have hnodes := (isSound_iff_nodes e).mp he
  exact resolveAt_related (sequential_keeps _ _) [] e
    fun x hx => visit_of_flaws_eq_nil r h _ (hnodes x hx)

theorem faultless_of_isSound {e : Effect} (he : e.isSound = true) (r : Rules) (h : Handler σ)
    (g : GameState) (s : σ) : (e.resolve r h g s).Faultless := by
  have hstart : (Run.start g s).Faultless :=
    ⟨by simp [Run.start, Report.empty], by simp [Run.start]⟩
  have hkeeps := keepsFaultless_resolveAt r h he _ hstart
  rw [resolve_eq]
  generalize exec (resolveAt r h 0 e) (.start g s) = o at hkeeps ⊢
  have hrun : o.2.Faultless := by
    obtain ⟨_ | _, run⟩ := o
    · exact hkeeps.1
    · exact hkeeps
  have herror : ∀ d, o.1 = .error (.anomaly d) → d.isPreventable = false := by
    intro d hd
    obtain ⟨error | _, run⟩ := o
    · exact hkeeps.2 d (Except.error.inj hd)
    · cases hd
  have hreport {report : Report} {d : Diagnostic}
      (hr : (Resolution.ofOutcome o).result = .ok report) (hd : d ∈ report.diagnostics) :
      d.isPreventable = false := by
    rw [Resolution.ofOutcome_result_eq_ok_iff] at hr
    exact hrun.diagnostics d (hr.2 ▸ hd)
  constructor
  · intro t ht
    cases herror _ (Resolution.ofOutcome_result_eq_error_iff.mp ht)
  · intro c f hf
    cases herror _ (Resolution.ofOutcome_result_eq_error_iff.mp hf)
  · intro report t hr hd
    cases hreport hr hd
  · intro report c f hr hd
    cases hreport hr hd
  · intro b g' answer hb hk
    have hneeds : b.kind.needsCardId = true := by rcases hk with hk | hk <;> rw [hk] <;> rfl
    exact hrun.calls _ hb hneeds

end Effect

/-! ## Loaded catalogs -/

namespace Catalog

/-- Loading a catalog leaves no card with a tree that is not sound. -/
theorem isSound_of_ofText {text : String} {c : Catalog} (h : ofText text = .ok c) :
    ∀ card ∈ c.cards, ∀ e, card.tree = some e → e.isSound = true := by
  unfold ofText at h
  split at h
  · rename_i j _
    unfold ofItems at h
    generalize registerAll 0 empty _ = loaded at h
    cases loaded with
    | error e => cases h
    | ok d =>
      cases hv : d.validate with
      | error e => simp [hv, bind, Except.bind] at h
      | ok u =>
        obtain rfl : d = c := by simpa [hv, bind, Except.bind, pure, Except.pure] using h
        exact firstUnsound_eq_ok_iff.mp hv
  · cases h

/-- Whatever has been checked cannot go wrong later: a sound tree, and so every tree of a catalog
that was loaded, shows no unknown target and no missing operand and names the cards that it brings
into the deck, in every state, by all rules and with every handler. -/
theorem resolve_faultless {σ : Type} (r : Rules) (h : Handler σ) (g : GameState) (s : σ) :
    (∀ e : Effect, e.isSound = true → (e.resolve r h g s).Faultless) ∧
      ∀ text c card e, ofText text = .ok c → card ∈ c.cards → card.tree = some e →
        (e.resolve r h g s).Faultless := by
  refine ⟨fun e he => Effect.faultless_of_isSound he r h g s, ?_⟩
  intro text c card e hc hcard htree
  exact Effect.faultless_of_isSound (isSound_of_ofText hc card hcard e htree) r h g s

/-- The text loads as a catalog in which some card has a tree. -/
def loadsTree (text : String) : Bool :=
  match ofText text with
  | .ok c => c.cards.any fun card => card.tree.isSome
  | .error _ => false

theorem exists_of_loadsTree {text : String} (h : loadsTree text = true) :
    ∃ c card e, ofText text = .ok c ∧ card ∈ c.cards ∧ card.tree = some e := by
  unfold loadsTree at h
  cases hc : ofText text with
  | error f => simp [hc] at h
  | ok c =>
    rw [hc] at h
    obtain ⟨card, hcard, htree⟩ := List.any_eq_true.mp h
    obtain ⟨e, he⟩ := Option.isSome_iff_exists.mp htree
    exact ⟨c, card, e, rfl, hcard, he⟩

/-- A catalog with one card, which brings another into the deck. -/
def oneCardText : String :=
  "[\x7b\"id\":\"OC-01\",\"type\":\"ocaso\",\"effectTree\":\x7b\"type\":\"add_card_to_deck\"," ++
    "\"cardId\":\"DS-01\",\"description\":\"Protesta\"\x7d\x7d]"

/-- A sound tree that counts tokens and the tree of a card that was loaded, resolved strictly. -/
theorem resolve_faultless_strictly :
    (∃ e : Effect, e.shape = .forEach ∧ e.isSound = true ∧
      (e.resolve ⟨.strictly, none, .stops⟩ Script.empty.handler .empty .all).Faultless) ∧
    ∃ c card e, ofText oneCardText = .ok c ∧ card ∈ c.cards ∧ card.tree = some e ∧
      (e.resolve ⟨.strictly, none, .stops⟩ Script.empty.handler .empty .all).Faultless := by
  have hsafe := resolve_faultless ⟨.strictly, none, .stops⟩ Script.empty.handler .empty .all
  constructor
  · have hsound : (Effect.forEach "ira_activa" (.addCard "DS-01" "Protesta") "Por cada Ira"
        .none).isSound = true := by decide +kernel
    exact ⟨_, rfl, hsound, hsafe.1 _ hsound⟩
  · have hloads : loadsTree oneCardText = true := by decide +kernel
    obtain ⟨c, card, e, hc, hcard, htree⟩ := exists_of_loadsTree hloads
    exact ⟨c, card, e, hc, hcard, htree, hsafe.2 _ c card e hc hcard htree⟩

end Catalog

end CityCards
