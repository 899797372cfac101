import CityCards.City.Change
import CityCards.Proofs.City.Alike

/-!
# The cells of a state

A state consists of cells: one for each kind that is counted, one for each building and each law
that there may be, and one each for hunger, stress and the round. Every mutation of a state goes to
one cell and looks at no other. So what a cell contains after a run of mutations is found by running
only those that go to it, and mutations that go to different cells can be made in either order. This
is so also for which counts have been entered, since a count without an entry is a cell without
content.

Main definitions:
* `Cell`, `GameState.content`: the cells of a state and what they contain.
* `Mutation`, `Mutation.apply`: what can be done to a state.
* `Mutation.cell`, `Mutation.act`: where a mutation goes and what it does there.
* `Mutation.folded`: the mutations of one cell, made in order.

Results:
* `GameState.ext_content`: a state is what its cells contain.
* `Mutation.content_apply_self`, `Mutation.content_apply_of_ne`: what one mutation does.
* `Mutation.content_applyAll`: what a run does.
* `Mutation.apply_comm`: mutations of different cells commute.
* `Mutation.applyAll_cellwise`: what that means for everything that can be looked at.
-/

namespace CityCards

namespace NameSet

variable (a : NameSet) {s t : String}

theorem contains_insert_self : (a.insert s).contains s = true := by
  rw [contains_insert, beq_self_eq_true, Bool.true_or]

theorem contains_insert_of_ne (h : s ≠ t) : (a.insert s).contains t = a.contains t := by
  rw [contains_insert, beq_false_of_ne h.symm, Bool.false_or]

theorem contains_erase_self : (a.erase s).contains s = false := by
  rw [contains_erase, bne_self_eq_false, Bool.and_false]

theorem contains_erase_of_ne (h : s ≠ t) : (a.erase s).contains t = a.contains t := by
  rw [contains_erase, bne_iff_ne.mpr h.symm, Bool.and_true]

end NameSet

/-- A part of a state that is changed on its own. -/
inductive Cell where
  | hope (k : HopeKind)
  | discontent (k : DiscontentKind)
  | resource (k : ResourceKind)
  | citizens (k : CitizenKind)
  | hunger
  | stress
  | building (id : String)
  | law (id : String)
  | round
  deriving DecidableEq, Repr

/-- What a cell may contain. Counts that have not been entered are missing; the others are taken as
numbers. -/
def Cell.Content : Cell → Type
  | .hope _ | .discontent _ => Option TokenCount
  | .resource _ | .citizens _ => Option Nat
  | .hunger | .stress => Int64
  | .building _ | .law _ => Bool
  | .round => RoundData

namespace GameState

/-- What a cell of the state contains. -/
def content (g : GameState) : (c : Cell) → c.Content
  | .hope k => g.hopeTokens.get? k
  | .discontent k => g.discontentTokens.get? k
  | .resource k => (g.resources.get? k).map UInt32.toNat
  | .citizens k => (g.citizens.get? k).map UInt32.toNat
  | .hunger => g.hunger
  | .stress => g.stress
  | .building id => g.buildings.contains id
  | .law id => g.laws.contains id
  | .round => g.roundData

theorem toNat_injective : Function.Injective UInt32.toNat := fun _ _ => UInt32.toNat_inj.mp

/-- A state is what its cells contain. -/
theorem ext_content {g g' : GameState} (h : ∀ c, g.content c = g'.content c) : g = g' := by
  have hhope := Ledger.ext_get? fun k => h (.hope k)
  have hdiscontent := Ledger.ext_get? fun k => h (.discontent k)
  have hresources := Ledger.ext_get? fun k => Option.map_injective toNat_injective (h (.resource k))
  have hcitizens := Ledger.ext_get? fun k => Option.map_injective toNat_injective (h (.citizens k))
  have hbuildings := NameSet.ext_contains fun id => h (.building id)
  have hlaws := NameSet.ext_contains fun id => h (.law id)
  have hhunger : g.hunger = g'.hunger := h .hunger
  have hstress : g.stress = g'.stress := h .stress
  have hround : g.roundData = g'.roundData := h .round
  cases g
  cases g'
  congr

/-! ## Writing a cell -/

section

variable (g : GameState) {c : Cell}

theorem content_setHope_of_ne {k : HopeKind} (h : .hope k ≠ c) (t : TokenCount) :
    (g.setHope k t).content c = g.content c := by
  cases c with
  | hope j => exact g.hopeTokens.get?_set_of_ne t fun heq => h (congrArg Cell.hope heq)
  | _ => rfl

theorem content_setDiscontent_of_ne {k : DiscontentKind} (h : .discontent k ≠ c) (t : TokenCount) :
    (g.setDiscontent k t).content c = g.content c := by
  cases c with
  | discontent j =>
    exact g.discontentTokens.get?_set_of_ne t fun heq => h (congrArg Cell.discontent heq)
  | _ => rfl

theorem content_setResource_of_ne {k : ResourceKind} (h : .resource k ≠ c) (n : UInt32) :
    (g.setResource k n).content c = g.content c := by
  cases c with
  | resource j =>
    exact congrArg (Option.map UInt32.toNat)
      (g.resources.get?_set_of_ne n fun heq => h (congrArg Cell.resource heq))
  | _ => rfl

theorem content_setCitizens_of_ne {k : CitizenKind} (h : .citizens k ≠ c) (n : UInt32) :
    (g.setCitizens k n).content c = g.content c := by
  cases c with
  | citizens j =>
    exact congrArg (Option.map UInt32.toNat)
      (g.citizens.get?_set_of_ne n fun heq => h (congrArg Cell.citizens heq))
  | _ => rfl

theorem content_setHunger_of_ne (h : .hunger ≠ c) (n : Int64) :
    (g.setHunger n).content c = g.content c := by
  cases c with
  | hunger => exact absurd rfl h
  | _ => rfl

theorem content_setStress_of_ne (h : .stress ≠ c) (n : Int64) :
    (g.setStress n).content c = g.content c := by
  cases c with
  | stress => exact absurd rfl h
  | _ => rfl

theorem content_setRound_of_ne (h : .round ≠ c) (r : RoundData) :
    (g.setRound r).content c = g.content c := by
  cases c with
  | round => exact absurd rfl h
  | _ => rfl

theorem content_addBuilding_of_ne {id : String} (h : .building id ≠ c) :
    (g.addBuilding id).content c = g.content c := by
  cases c with
  | building s => exact g.buildings.contains_insert_of_ne fun heq => h (congrArg Cell.building heq)
  | _ => rfl

theorem content_removeBuilding_of_ne {id : String} (h : .building id ≠ c) :
    (g.removeBuilding id).content c = g.content c := by
  cases c with
  | building s => exact g.buildings.contains_erase_of_ne fun heq => h (congrArg Cell.building heq)
  | _ => rfl

theorem content_enactLaw_of_ne {id : String} (h : .law id ≠ c) :
    (g.enactLaw id).content c = g.content c := by
  cases c with
  | law s => exact g.laws.contains_insert_of_ne fun heq => h (congrArg Cell.law heq)
  | _ => rfl

theorem content_repealLaw_of_ne {id : String} (h : .law id ≠ c) :
    (g.repealLaw id).content c = g.content c := by
  cases c with
  | law s => exact g.laws.contains_erase_of_ne fun heq => h (congrArg Cell.law heq)
  | _ => rfl

end

end GameState

/-! ## Mutations -/

/-- What can be done to a state. To write is to put what a function makes of what is there. -/
inductive Mutation where
  | setHope (k : HopeKind) (t : TokenCount)
  | writeHope (k : HopeKind) (f : TokenCount → TokenCount)
  | setDiscontent (k : DiscontentKind) (t : TokenCount)
  | writeDiscontent (k : DiscontentKind) (f : TokenCount → TokenCount)
  | setResource (k : ResourceKind) (n : UInt32)
  | modifyResource (k : ResourceKind) (delta : Int64)
  | setCitizens (k : CitizenKind) (n : UInt32)
  | modifyCitizens (k : CitizenKind) (delta : Int64)
  | writeHunger (f : Int64 → Int64)
  | writeStress (f : Int64 → Int64)
  | addBuilding (id : String)
  | removeBuilding (id : String)
  | enactLaw (id : String)
  | repealLaw (id : String)
  | writeRound (f : RoundData → RoundData)
  | resetRound

/-- The sum of a count and a signed change as integers, or the bound of counts that it is beyond. -/
def clampedSum (n : Nat) (delta : Int64) : Nat :=
  (min (max ((n : Int) + delta.toInt) 0) maxCount).toNat

theorem toNat_getD_zero (x : Option UInt32) : (x.getD 0).toNat = (x.map UInt32.toNat).getD 0 := by
  cases x <;> rfl

theorem toNat_addClamped_eq (count : UInt32) (delta : Int64) :
    (addClamped count delta).toNat = clampedSum count.toNat delta := by
  have hmax : (maxCount : Int) = 2 ^ 32 - 1 := rfl
  rw [clampedSum, hmax, ← toNat_addClamped, Int.toNat_natCast]

namespace Mutation

/-- The state after the mutation. -/
def apply (o : Mutation) (g : GameState) : GameState :=
  match o with
  | .setHope k t => g.setHope k t
  | .writeHope k f => g.updateHope k f
  | .setDiscontent k t => g.setDiscontent k t
  | .writeDiscontent k f => g.updateDiscontent k f
  | .setResource k n => g.setResource k n
  | .modifyResource k delta => g.modifyResource k delta
  | .setCitizens k n => g.setCitizens k n
  | .modifyCitizens k delta => g.modifyCitizens k delta
  | .writeHunger f => g.setHunger (f g.hunger)
  | .writeStress f => g.setStress (f g.stress)
  | .addBuilding id => g.addBuilding id
  | .removeBuilding id => g.removeBuilding id
  | .enactLaw id => g.enactLaw id
  | .repealLaw id => g.repealLaw id
  | .writeRound f => g.setRound (f g.roundData)
  | .resetRound => g.resetRound

/-- The state after all mutations, made in order. -/
def applyAll (ops : List Mutation) (g : GameState) : GameState := ops.foldl (fun g o => o.apply g) g

/-- The cell that the mutation goes to. -/
def cell : Mutation → Cell
  | .setHope k _ | .writeHope k _ => .hope k
  | .setDiscontent k _ | .writeDiscontent k _ => .discontent k
  | .setResource k _ | .modifyResource k _ => .resource k
  | .setCitizens k _ | .modifyCitizens k _ => .citizens k
  | .writeHunger _ => .hunger
  | .writeStress _ => .stress
  | .addBuilding id | .removeBuilding id => .building id
  | .enactLaw id | .repealLaw id => .law id
  | .writeRound _ | .resetRound => .round

/-- What the mutation makes of the content of its cell. -/
def act : (o : Mutation) → o.cell.Content → o.cell.Content
  | .setHope _ t => fun _ => some t
  | .writeHope _ f => fun x => some (f (x.getD .zero))
  | .setDiscontent _ t => fun _ => some t
  | .writeDiscontent _ f => fun x => some (f (x.getD .zero))
  | .setResource _ n => fun _ => some n.toNat
  | .modifyResource _ delta => fun x => some (clampedSum (x.getD 0) delta)
  | .setCitizens _ n => fun _ => some n.toNat
  | .modifyCitizens _ delta => fun x => some (clampedSum (x.getD 0) delta)
  | .writeHunger f => f
  | .writeStress f => f
  | .addBuilding _ => fun _ => true
  | .removeBuilding _ => fun _ => false
  | .enactLaw _ => fun _ => true
  | .repealLaw _ => fun _ => false
  | .writeRound f => f
  | .resetRound => fun _ => ⟨0, 0⟩

/-! ## One mutation -/

/-- A mutation acts on the content of its cell. -/
theorem content_apply_self (o : Mutation) (g : GameState) :
    (o.apply g).content o.cell = o.act (g.content o.cell) := by
  have hmodified (x : Option UInt32) (delta : Int64) :
      some (addClamped (x.getD 0) delta).toNat =
        some (clampedSum ((x.map UInt32.toNat).getD 0) delta) := by
    rw [toNat_addClamped_eq, toNat_getD_zero]
  cases o with
  | setHope k t => exact g.hopeTokens.get?_set_self k t
  | writeHope k f => exact g.hopeTokens.get?_set_self k (f (g.hope k))
  | setDiscontent k t => exact g.discontentTokens.get?_set_self k t
  | writeDiscontent k f => exact g.discontentTokens.get?_set_self k (f (g.discontent k))
  | setResource k n => exact congrArg (Option.map UInt32.toNat) (g.resources.get?_set_self k n)
  | modifyResource k delta =>
    exact (congrArg (Option.map UInt32.toNat) (g.resources.get?_set_self k _)).trans
      (hmodified (g.resources.get? k) delta)
  | setCitizens k n => exact congrArg (Option.map UInt32.toNat) (g.citizens.get?_set_self k n)
  | modifyCitizens k delta =>
    exact (congrArg (Option.map UInt32.toNat) (g.citizens.get?_set_self k _)).trans
      (hmodified (g.citizens.get? k) delta)
  | writeHunger f => rfl
  | writeStress f => rfl
  | addBuilding id => exact g.buildings.contains_insert_self
  | removeBuilding id => exact g.buildings.contains_erase_self
  | enactLaw id => exact g.laws.contains_insert_self
  | repealLaw id => exact g.laws.contains_erase_self
  | writeRound f => rfl
  | resetRound => rfl

/-- A mutation leaves all other cells as they are. -/
theorem content_apply_of_ne {o : Mutation} {c : Cell} (h : o.cell ≠ c) (g : GameState) :
    (o.apply g).content c = g.content c := by
  cases o with
  | setHope k t => exact g.content_setHope_of_ne h t
  | writeHope k f => exact g.content_setHope_of_ne h (f (g.hope k))
  | setDiscontent k t => exact g.content_setDiscontent_of_ne h t
  | writeDiscontent k f => exact g.content_setDiscontent_of_ne h (f (g.discontent k))
  | setResource k n => exact g.content_setResource_of_ne h n
  | modifyResource k delta => exact g.content_setResource_of_ne h (addClamped (g.resource k) delta)
  | setCitizens k n => exact g.content_setCitizens_of_ne h n
  | modifyCitizens k delta =>
    exact g.content_setCitizens_of_ne h (addClamped (g.citizensOf k) delta)
  | writeHunger f => exact g.content_setHunger_of_ne h (f g.hunger)
  | writeStress f => exact g.content_setStress_of_ne h (f g.stress)
  | addBuilding id => exact g.content_addBuilding_of_ne h
  | removeBuilding id => exact g.content_removeBuilding_of_ne h
  | enactLaw id => exact g.content_enactLaw_of_ne h
  | repealLaw id => exact g.content_repealLaw_of_ne h
  | writeRound f => exact g.content_setRound_of_ne h (f g.roundData)
  | resetRound => exact g.content_setRound_of_ne h ⟨0, 0⟩

/-- A mutation that leaves the content of its cell as it is leaves the state as it is. -/
theorem apply_eq_self_iff (o : Mutation) (g : GameState) :
    o.apply g = g ↔ o.act (g.content o.cell) = g.content o.cell := by
  constructor
  · intro h
    rw [← content_apply_self, h]
  · refine fun h => GameState.ext_content fun c => ?_
    by_cases hc : o.cell = c
    · subst hc
      rw [content_apply_self, h]
    · exact content_apply_of_ne hc g

/-- Mutations that go to different cells can be made in either order. -/
theorem apply_comm {o o' : Mutation} (h : o.cell ≠ o'.cell) (g : GameState) :
    o.apply (o'.apply g) = o'.apply (o.apply g) := by
  refine GameState.ext_content fun c => ?_
  -- At most one of them goes to the cell, and it finds there what it would find without the other.
  by_cases hc : o.cell = c
  · subst hc
    rw [content_apply_self, content_apply_of_ne h.symm, content_apply_of_ne h.symm,
      content_apply_self]
  · rw [content_apply_of_ne hc]
    by_cases hc' : o'.cell = c
    · subst hc'
      rw [content_apply_self, content_apply_self, content_apply_of_ne h]
    · rw [content_apply_of_ne hc', content_apply_of_ne hc', content_apply_of_ne hc]

/-! ## Runs of mutations -/

/-- What the mutation does to a cell, if it goes there. -/
def actOn? (c : Cell) (o : Mutation) : Option (c.Content → c.Content) :=
  if h : o.cell = c then some (h ▸ o.act) else none

theorem actOn?_self (o : Mutation) : o.actOn? o.cell = some o.act := dif_pos rfl

theorem actOn?_of_ne {o : Mutation} {c : Cell} (h : o.cell ≠ c) : o.actOn? c = none := dif_neg h

/-- What the mutations that go to a cell make of its content, one after the other. -/
def folded (ops : List Mutation) (c : Cell) (x : c.Content) : c.Content :=
  (ops.filterMap (actOn? c)).foldl (fun x act => act x) x

theorem applyAll_append (ops later : List Mutation) (g : GameState) :
    applyAll (ops ++ later) g = applyAll later (applyAll ops g) := List.foldl_append

/-- Each cell contains what the mutations that go there have made of it. -/
theorem content_applyAll (ops : List Mutation) (g : GameState) (c : Cell) :
    (applyAll ops g).content c = folded ops c (g.content c) := by
  induction ops generalizing g with
  | nil => rfl
  | cons o rest ih =>
    rw [applyAll, List.foldl_cons, ← applyAll, ih, folded, folded]
    by_cases h : o.cell = c
    · subst h
      rw [List.filterMap_cons_some o.actOn?_self, List.foldl_cons, content_apply_self]
    · rw [List.filterMap_cons_none (actOn?_of_ne h), content_apply_of_ne h]

theorem content_applyAll_of_forall_ne {ops : List Mutation} {c : Cell}
    (h : ∀ o ∈ ops, o.cell ≠ c) (g : GameState) : (applyAll ops g).content c = g.content c := by
  rw [content_applyAll, folded, List.filterMap_eq_nil_iff.mpr fun o ho => actOn?_of_ne (h o ho)]
  rfl

/-- The last mutation that goes to a cell decides with what has been there before. -/
theorem content_applyAll_last (ops : List Mutation) {o : Mutation} {later : List Mutation}
    (h : ∀ p ∈ later, p.cell ≠ o.cell) (g : GameState) :
    (applyAll (ops ++ o :: later) g).content o.cell = o.act ((applyAll ops g).content o.cell) := by
  rw [applyAll_append, applyAll, List.foldl_cons, ← applyAll, content_applyAll_of_forall_ne h,
    content_apply_self]

end Mutation

/-! ## Changes as mutations -/

namespace Change

/-- The mutation that a change is. -/
def mutation : Change → Mutation
  | .setHope k t => .setHope k t
  | .touchHope k => .writeHope k id
  | .setHopeActive k n => .writeHope k fun t => { t with active := n }
  | .setHopeExhausted k n => .writeHope k fun t => { t with exhausted := n }
  | .setDiscontent k t => .setDiscontent k t
  | .setDiscontentActive k n => .writeDiscontent k fun t => { t with active := n }
  | .setDiscontentExhausted k n => .writeDiscontent k fun t => { t with exhausted := n }
  | .setResource k n => .setResource k n
  | .modifyResource k delta => .modifyResource k delta
  | .setCitizens k n => .setCitizens k n
  | .modifyCitizens k delta => .modifyCitizens k delta
  | .setHunger n => .writeHunger fun _ => n
  | .setStress n => .writeStress fun _ => n
  | .addBuilding id => .addBuilding id
  | .removeBuilding id => .removeBuilding id
  | .enactLaw id => .enactLaw id
  | .repealLaw id => .repealLaw id
  | .setRound r => .writeRound fun _ => r
  | .resetRound => .resetRound

theorem apply_mutation (c : Change) (g : GameState) : c.mutation.apply g = c.apply g := by
  cases c <;> rfl

theorem applyAll_mutation (cs : List Change) (g : GameState) :
    Mutation.applyAll (cs.map mutation) g = applyAll cs g := by
  simp only [Mutation.applyAll, List.foldl_map, apply_mutation, applyAll]

/-- What a change reports does not depend on other cells than its own. -/
theorem reports?_apply_of_ne {c : Change} {o : Mutation} (h : o.cell ≠ c.mutation.cell)
    (g : GameState) : c.reports? (o.apply g) = c.reports? g := by
  cases c with
  | removeBuilding id => exact congrArg some (Mutation.content_apply_of_ne h g)
  | repealLaw id => exact congrArg some (Mutation.content_apply_of_ne h g)
  | _ => rfl

/-- A removal reports whether it has changed anything. -/
theorem reports?_removeBuilding_iff (id : String) (g : GameState) :
    (Change.removeBuilding id).reports? g = some true ↔ g.removeBuilding id ≠ g := by
  have hself : g.removeBuilding id = g ↔ false = g.hasBuilding id :=
    (Mutation.removeBuilding id).apply_eq_self_iff g
  rw [reports?, Option.some_inj, ne_eq, hself, eq_comm (a := false), Bool.not_eq_false]

theorem reports?_repealLaw_iff (id : String) (g : GameState) :
    (Change.repealLaw id).reports? g = some true ↔ g.repealLaw id ≠ g := by
  have hself : g.repealLaw id = g ↔ false = g.hasLaw id :=
    (Mutation.repealLaw id).apply_eq_self_iff g
  rw [reports?, Option.some_inj, ne_eq, hself, eq_comm (a := false), Bool.not_eq_false]

end Change

/-! ## Looking at a state after a run -/

namespace Mutation

section

variable (ops : List Mutation) (g : GameState)

theorem hope_applyAll (k : HopeKind) :
    (applyAll ops g).hope k = (folded ops (.hope k) (g.hopeTokens.get? k)).getD .zero :=
  congrArg (Option.getD · TokenCount.zero) (content_applyAll ops g (.hope k))

theorem discontent_applyAll (k : DiscontentKind) :
    (applyAll ops g).discontent k =
      (folded ops (.discontent k) (g.discontentTokens.get? k)).getD .zero :=
  congrArg (Option.getD · TokenCount.zero) (content_applyAll ops g (.discontent k))

theorem resource_applyAll (k : ResourceKind) :
    ((applyAll ops g).resource k).toNat =
      (folded ops (.resource k) ((g.resources.get? k).map UInt32.toNat)).getD 0 :=
  (toNat_getD_zero _).trans (congrArg (Option.getD · 0) (content_applyAll ops g (.resource k)))

theorem citizensOf_applyAll (k : CitizenKind) :
    ((applyAll ops g).citizensOf k).toNat =
      (folded ops (.citizens k) ((g.citizens.get? k).map UInt32.toNat)).getD 0 :=
  (toNat_getD_zero _).trans (congrArg (Option.getD · 0) (content_applyAll ops g (.citizens k)))

theorem totalActiveHope_applyAll :
    (applyAll ops g).totalActiveHope =
      ((Vocabulary.all : List HopeKind).map fun k =>
        ((folded ops (.hope k) (g.hopeTokens.get? k)).getD .zero).active.toNat).sum := by
  simp only [GameState.totalActiveHope_eq_sum, hope_applyAll]

theorem totalActiveDiscontent_applyAll :
    (applyAll ops g).totalActiveDiscontent =
      ((Vocabulary.all : List DiscontentKind).map fun k =>
        ((folded ops (.discontent k) (g.discontentTokens.get? k)).getD
          .zero).active.toNat).sum := by
  simp only [GameState.totalActiveDiscontent_eq_sum, discontent_applyAll]

end

/-- Every mutation goes to its own cell only. After a run each cell contains what the mutations that
go to it have made of its content, and so whatever is looked at is found from these alone; the last
of them decides. A removal reports whether what it goes to was there, as the run has left it, which
is whether it changes anything. Mutations of different cells can be made in either order: the state
is the same, which counts are entered included, and so is what a removal reports. The changes that a
city can undergo are such mutations. -/
theorem applyAll_cellwise (g : GameState) (ops : List Mutation) :
    (∀ c, (applyAll ops g).content c = folded ops c (g.content c)) ∧
    ((∀ k, (applyAll ops g).hope k = (folded ops (.hope k) (g.hopeTokens.get? k)).getD .zero) ∧
      (∀ k, (applyAll ops g).discontent k =
        (folded ops (.discontent k) (g.discontentTokens.get? k)).getD .zero) ∧
      (∀ k, ((applyAll ops g).resource k).toNat =
        (folded ops (.resource k) ((g.resources.get? k).map UInt32.toNat)).getD 0) ∧
      (∀ k, ((applyAll ops g).citizensOf k).toNat =
        (folded ops (.citizens k) ((g.citizens.get? k).map UInt32.toNat)).getD 0) ∧
      (applyAll ops g).hunger = folded ops .hunger g.hunger ∧
      (applyAll ops g).stress = folded ops .stress g.stress ∧
      (∀ id, (applyAll ops g).hasBuilding id = folded ops (.building id) (g.hasBuilding id)) ∧
      (∀ id, (applyAll ops g).hasLaw id = folded ops (.law id) (g.hasLaw id)) ∧
      (applyAll ops g).roundData = folded ops .round g.roundData ∧
      (applyAll ops g).totalActiveHope =
        ((Vocabulary.all : List HopeKind).map fun k =>
          ((folded ops (.hope k) (g.hopeTokens.get? k)).getD .zero).active.toNat).sum ∧
      (applyAll ops g).totalActiveDiscontent =
        ((Vocabulary.all : List DiscontentKind).map fun k =>
          ((folded ops (.discontent k) (g.discontentTokens.get? k)).getD .zero).active.toNat).sum) ∧
    (∀ o later, (∀ p ∈ later, p.cell ≠ o.cell) →
      (applyAll (ops ++ o :: later) g).content o.cell =
        o.act ((applyAll ops g).content o.cell)) ∧
    (∀ id,
      (Change.removeBuilding id).reports? (applyAll ops g) =
        some (folded ops (.building id) (g.hasBuilding id)) ∧
      ((Change.removeBuilding id).reports? g = some true ↔ g.removeBuilding id ≠ g) ∧
      (Change.repealLaw id).reports? (applyAll ops g) =
        some (folded ops (.law id) (g.hasLaw id)) ∧
      ((Change.repealLaw id).reports? g = some true ↔ g.repealLaw id ≠ g)) ∧
    (∀ o o' : Mutation, o.cell ≠ o'.cell → o.apply (o'.apply g) = o'.apply (o.apply g)) ∧
    (∀ (o : Mutation) (c : Change), o.cell ≠ c.mutation.cell →
      c.reports? (o.apply g) = c.reports? g) ∧
    ∀ cs, Change.applyAll cs g = applyAll (cs.map Change.mutation) g := by
  have hbuilding (id : String) := content_applyAll ops g (.building id)
  have hlaw (id : String) := content_applyAll ops g (.law id)
  refine ⟨content_applyAll ops g,
    ⟨hope_applyAll ops g, discontent_applyAll ops g, resource_applyAll ops g,
      citizensOf_applyAll ops g, content_applyAll ops g .hunger, content_applyAll ops g .stress,
      hbuilding, hlaw, content_applyAll ops g .round, totalActiveHope_applyAll ops g,
      totalActiveDiscontent_applyAll ops g⟩,
    fun o later h => content_applyAll_last ops h g, fun id => ?_, fun o o' h => apply_comm h g,
    fun o c h => Change.reports?_apply_of_ne h g, fun cs => (Change.applyAll_mutation cs g).symm⟩
  exact ⟨congrArg some (hbuilding id), Change.reports?_removeBuilding_iff id g,
    congrArg some (hlaw id), Change.reports?_repealLaw_iff id g⟩

/-- More coal is taken than there is, and then more is added than can be counted. Neither sum wraps
around, and other mutations after that do not matter. -/
theorem applyAll_cellwise_coal :
    (∀ p ∈ [addBuilding "taller", setResource .wood 0], p.cell ≠ .resource .coal) ∧
    (applyAll ([modifyResource .coal 5, modifyResource .coal Int64.minValue] ++
      modifyResource .coal Int64.maxValue :: [addBuilding "taller", setResource .wood 0])
        .empty).content (.resource .coal) = some maxCount ∧
    (setResource .wood 0).cell ≠ (modifyResource .coal 5).cell ∧
    (setResource .wood 0).apply ((modifyResource .coal 5).apply .empty) =
      (modifyResource .coal 5).apply ((setResource .wood 0).apply .empty) := by
  have hlater : ∀ p ∈ [addBuilding "taller", setResource .wood 0], p.cell ≠ .resource .coal := by
    decide
  have hne : (setResource .wood 0).cell ≠ (modifyResource .coal 5).cell := by decide
  obtain ⟨hfolded, -, hlast, -, hcomm, -, -⟩ := applyAll_cellwise .empty
    [modifyResource .coal 5, modifyResource .coal Int64.minValue]
  have hnone : (applyAll [modifyResource .coal 5, modifyResource .coal Int64.minValue]
      .empty).content (.resource .coal) = some 0 := hfolded (.resource .coal)
  have hmost := congrArg (modifyResource .coal Int64.maxValue).act hnone
  exact ⟨hlater, (hlast (modifyResource .coal Int64.maxValue) _ hlater).trans hmost, hne,
    hcomm _ _ hne⟩

end Mutation

end CityCards
