import CityCards.Proofs.Play.Watched

/-!
# Comparing two resolutions of a tree

Two resolutions of one tree, under different rules or with different handlers, do the same steps in
the same order as long as the steps give the same answers. So a relation between their parts that
is kept by doing one part after another holds of the whole if it holds at every node of the tree.
The induction over the tree is made here once. A property of one resolution is the relation that
does not look at the other.

Main definitions:
* `Resolve.Sequential`: relations that are kept by doing one part after another.
* `Resolve.NodeRelated`: what the two resolutions do from entering a node up to its children is
  related.
* `Resolve.VisitRelated`: what the two resolutions do at a node is related, step by step.
* `Resolve.Leads`, `Resolve.Keeps`: what a part leads to or keeps if it succeeds, and what it leaves
  if it fails.

Results:
* `Effect.watchAt_related_nodes`: watched resolutions are related if all their nodes are.
* `Effect.watchAt_related`: watched resolutions are related if all entries and visits of nodes are.
* `Effect.resolveAt_related`: resolutions are related if all visits of nodes are.
* `Resolve.sequential_keeps`: what is kept by parts is kept by doing them one after another.
* `Resolve.grows_bind`: if parts take back no call, then doing them one after another does not.
* `Effect.keeps_watchAt`: a watched resolution keeps what all entries and visits of nodes keep.
-/

namespace CityCards

namespace Resolve

variable {σ τ : Type}

/-- A relation between the parts of two resolutions is kept by doing one part after another. -/
structure Sequential (R : (α : Type) → Resolve σ α → Resolve τ α → Prop) : Prop where
  pure : ∀ {α : Type} (a : α), R α (pure a) (pure a)
  bind : ∀ {α β : Type} {m : Resolve σ α} {n : Resolve τ α} {f : α → Resolve σ β}
    {g : α → Resolve τ β}, R α m n → (∀ a, R β (f a) (g a)) → R β (m >>= f) (n >>= g)

/-- What two resolutions do at a node that is `depth` deep, apart from its children, is related, and
so is counting anything. -/
def VisitRelated (R : (α : Type) → Resolve σ α → Resolve τ α → Prop) (r r' : Rules)
    (h : Handler σ) (h' : Handler τ) (depth : Nat) (e : Effect) : Prop :=
  R Unit (checkDepth r depth) (checkDepth r' depth) ∧
  (∀ entry, entry.diagnostics = [] → R Unit (count r entry) (count r' entry)) ∧
    match e with
    | .basic b => R Unit (applyBasic h b) (applyBasic h' b)
    | .conditional c _ _ _ => R Bool (test r c) (test r' c)
    | .multi bs _ _ => ∀ b ∈ bs, R Bool (test r b.1) (test r' b.1)
    | .choice d lo hi os m =>
      R (List (Fin os.length)) (choose r h ⟨d, lo, hi, os, m⟩) (choose r' h' ⟨d, lo, hi, os, m⟩)
    | .forEach t _ _ _ => R UInt32 (tally r t) (tally r' t)
    | .composite .. => True

/-- Enters the node at a place and looks at its depth, before the step of the node itself. -/
def entering {α : Type} (enter : Place → Resolve σ Unit) (r : Rules) (p : Place)
    (step : Resolve σ α) : Resolve σ α := do
  enter p
  checkDepth r p.length
  step

/-- Has the handler apply a basic effect, and counts it. -/
def applyCounted (r : Rules) (h : Handler σ) (b : Basic) : Resolve σ Unit := do
  applyBasic h b
  count r .applied

/-- What a target counts, which is counted as well. -/
def tallyCounted (r : Rules) (target : String) : Resolve σ UInt32 := do
  let n ← tally r target
  count r (.repeating n)
  pure n

/-- What two resolutions do when they come to the node at a place, apart from its children, is
related. Entering the node, its step and counting it are one part here, so something may hold after
them that does not hold in between. -/
def NodeRelated (R : (α : Type) → Resolve σ α → Resolve τ α → Prop)
    (enter : Place → Resolve σ Unit) (enter' : Place → Resolve τ Unit) (r r' : Rules)
    (h : Handler σ) (h' : Handler τ) (p : Place) (e : Effect) : Prop :=
  match e with
  | .basic b => R Unit (entering enter r p (applyCounted r h b))
      (entering enter' r' p (applyCounted r' h' b))
  | .conditional c _ _ _ =>
      R Bool (entering enter r p (test r c)) (entering enter' r' p (test r' c))
  | .multi bs _ _ => R Unit (entering enter r p (pure ())) (entering enter' r' p (pure ())) ∧
      ∀ b ∈ bs, R Bool (test r b.1) (test r' b.1)
  | .choice d lo hi os m => R (List (Fin os.length))
      (entering enter r p (choose r h ⟨d, lo, hi, os, m⟩))
      (entering enter' r' p (choose r' h' ⟨d, lo, hi, os, m⟩))
  | .forEach t _ _ _ => R UInt32 (entering enter r p (tallyCounted r t))
      (entering enter' r' p (tallyCounted r' t))
  | .composite .. => R Unit (entering enter r p (pure ())) (entering enter' r' p (pure ()))

namespace Sequential

variable {R : (α : Type) → Resolve σ α → Resolve τ α → Prop}

theorem inOrder (hR : Sequential R) {ι : Type} {f : ι → Resolve σ Unit} {g : ι → Resolve τ Unit}
    {is : List ι} (h : ∀ i ∈ is, R Unit (f i) (g i)) :
    R Unit (Resolve.inOrder (is.map f)) (Resolve.inOrder (is.map g)) := by
  induction is with
  | nil => exact hR.pure ()
  | cons i rest ih =>
    have hrest := ih fun j hj => h j (List.mem_cons_of_mem _ hj)
    exact hR.bind (h i List.mem_cons_self) fun _ => hrest

theorem repeated (hR : Sequential R) {m : Resolve σ Unit} {n : Resolve τ Unit} (h : R Unit m n)
    (k : Nat) : R Unit (Resolve.repeated m k) (Resolve.repeated n k) := by
  induction k with
  | zero => exact hR.pure ()
  | succ k ih => exact hR.bind h fun _ => ih

end Sequential

/-- What is done after the step of a node is done after entering it. -/
theorem entering_bind {α β : Type} (enter : Place → Resolve σ Unit) (r : Rules) (p : Place)
    (step : Resolve σ α) (f : α → Resolve σ β) :
    entering enter r p step >>= f = (do enter p; checkDepth r p.length; step >>= f) := by
  simp only [entering, bind_assoc]

/-- A node is related if entering it is and the visit of it is. -/
theorem VisitRelated.node {R : (α : Type) → Resolve σ α → Resolve τ α → Prop}
    (hR : Sequential R) {enter : Place → Resolve σ Unit} {enter' : Place → Resolve τ Unit}
    {r r' : Rules} {h : Handler σ} {h' : Handler τ} {p : Place} {e : Effect}
    (henter : R Unit (enter p) (enter' p)) (hvisit : VisitRelated R r r' h h' p.length e) :
    NodeRelated R enter enter' r r' h h' p e := by
  obtain ⟨hdepth, hcount, hroot⟩ := hvisit
  have hentering {α : Type} {step : Resolve σ α} {step' : Resolve τ α} (hstep : R α step step') :
      R α (entering enter r p step) (entering enter' r' p step') :=
    hR.bind henter fun _ => hR.bind hdepth fun _ => hstep
  cases e with
  | basic b => exact hentering (hR.bind hroot fun _ => hcount .applied rfl)
  | conditional c t f m => exact hentering hroot
  | multi bs d m => exact ⟨hentering (hR.pure ()), hroot⟩
  | choice d lo hi os m => exact hentering hroot
  | forEach t b d m =>
    exact hentering (hR.bind hroot fun n => hR.bind (hcount (.repeating n) rfl) fun _ => hR.pure n)
  | composite es d m => exact hentering (hR.pure ())

end Resolve

namespace Effect

open Resolve

variable {σ τ : Type} {R : (α : Type) → Resolve σ α → Resolve τ α → Prop} {r r' : Rules}
  {h : Handler σ} {h' : Handler τ} {enter : Place → Resolve σ Unit}
  {enter' : Place → Resolve τ Unit}

theorem nodesAt_self_mem (p : Place) (e : Effect) : (p, e) ∈ e.nodesAt p := by
  cases e <;> simp [nodesAt]

mutual

/-- Two resolutions of a tree that are watched are related if they are at all its nodes. -/
theorem watchAt_related_nodes (hR : Sequential R) (p : Place) (e : Effect)
    (hv : ∀ x ∈ e.nodesAt p, NodeRelated R enter enter' r r' h h' x.1 x.2) :
    R Unit (watchAt enter r h p e) (watchAt enter' r' h' p e) := by
  have hroot := hv _ (nodesAt_self_mem p e)
  cases e with
  | basic b => exact hroot
  | conditional c t f m =>
    have ht := watchAt_related_nodes hR (p ++ [.ifTrue]) t
      fun x hx => hv x (by simp [nodesAt, hx])
    have hf := watchOption_related hR (p ++ [.ifFalse]) f
      fun x hx => hv x (by simp [nodesAt, hx])
    rw [watchAt, watchAt, ← entering_bind, ← entering_bind]
    refine hR.bind hroot fun b => ?_
    cases b
    · exact hf
    · exact ht
  | multi bs d m =>
    have hbs := watchBranches_related hR p 0 bs hroot.2
      fun x hx => hv x (by simp [nodesAt, hx])
    have hd := watchOption_related hR (p ++ [.default]) d
      fun x hx => hv x (by simp [nodesAt, hx])
    have hall := hR.bind hroot.1 fun _ => hR.bind hbs fun taken => show
        R Unit (if taken then pure () else watchOption enter r h (p ++ [.default]) d)
          (if taken then pure () else watchOption enter' r' h' (p ++ [.default]) d) from by
      cases taken
      · exact hd
      · exact hR.pure ()
    simp only [entering_bind, pure_bind] at hall
    exact hall
  | choice d lo hi os m =>
    have hos := watchEach_related hR p .option 0 os
      fun x hx => hv x (by simp [nodesAt, hx])
    rw [watchAt_choice, watchAt_choice, ← entering_bind, ← entering_bind]
    refine hR.bind hroot fun is => hR.inOrder fun k _ => ?_
    simpa using hos k
  | forEach t b d m =>
    have hb := watchAt_related_nodes hR (p ++ [.body]) b
      fun x hx => hv x (by simp [nodesAt, hx])
    have hall := hR.bind hroot fun n => hR.repeated hb n.toNat
    simp only [entering_bind, tallyCounted, bind_assoc, pure_bind] at hall
    rw [watchAt, watchAt]
    exact hall
  | composite es d m =>
    have hes := watchEach_related hR p .member 0 es
      fun x hx => hv x (by simp [nodesAt, hx])
    have hmembers := hR.inOrder fun k (_ : k ∈ List.finRange es.length) => hes k
    have hall := hR.bind hroot fun _ => hmembers
    simp only [entering_bind, pure_bind] at hall
    rw [watchAt, watchAt, watchEach_eq, watchEach_eq]
    exact hall
termination_by structural e

theorem watchOption_related (hR : Sequential R) (p : Place) (o : Option Effect)
    (hv : ∀ x ∈ optionNodesAt p o, NodeRelated R enter enter' r r' h h' x.1 x.2) :
    R Unit (watchOption enter r h p o) (watchOption enter' r' h' p o) := by
  cases o with
  | none => exact hR.pure ()
  | some e => exact watchAt_related_nodes hR p e hv
termination_by structural o

theorem watchEach_related (hR : Sequential R) (p : Place) (label : Nat → Segment) (i : Nat)
    (es : List Effect)
    (hv : ∀ x ∈ listNodesAt p label i es, NodeRelated R enter enter' r r' h h' x.1 x.2)
    (k : Fin es.length) :
    R Unit (watchAt enter r h (p ++ [label (i + k.val)]) (es.get k))
      (watchAt enter' r' h' (p ++ [label (i + k.val)]) (es.get k)) := by
  cases es with
  | nil => exact k.elim0
  | cons e rest =>
    have he := watchAt_related_nodes hR (p ++ [label i]) e
      fun x hx => hv x (by simp [listNodesAt, hx])
    have hrest := watchEach_related hR p label (i + 1) rest
      fun x hx => hv x (by simp [listNodesAt, hx])
    cases k using Fin.cases with
    | zero => exact he
    | succ k => simpa [Nat.add_assoc, Nat.add_comm 1] using hrest k
termination_by structural es

theorem watchBranches_related (hR : Sequential R) (p : Place) (i : Nat)
    (bs : List (Condition × Effect)) (hc : ∀ b ∈ bs, R Bool (test r b.1) (test r' b.1))
    (hv : ∀ x ∈ branchNodesAt p i bs, NodeRelated R enter enter' r r' h h' x.1 x.2) :
    R Bool (watchBranches enter r h p i bs) (watchBranches enter' r' h' p i bs) := by
  cases bs with
  | nil => exact hR.pure false
  | cons b rest =>
    obtain ⟨c, e⟩ := b
    have he := watchAt_related_nodes hR (p ++ [.branch i]) e
      fun x hx => hv x (by simp [branchNodesAt, hx])
    have hrest := watchBranches_related hR p (i + 1) rest
      (fun b hb => hc b (List.mem_cons_of_mem _ hb))
      fun x hx => hv x (by simp [branchNodesAt, hx])
    refine hR.bind (hc (c, e) List.mem_cons_self) fun holds => ?_
    cases holds
    · exact hrest
    · exact hR.bind he fun _ => hR.pure true
termination_by structural bs

end

/-- Two resolutions of a tree that are watched are related if what is done when a node is entered
and what is done at the node are, for all its nodes. -/
theorem watchAt_related (hR : Sequential R) (p : Place) (e : Effect)
    (hv : ∀ x ∈ e.nodesAt p, R Unit (enter x.1) (enter' x.1) ∧
      VisitRelated R r r' h h' x.1.length x.2) :
    R Unit (watchAt enter r h p e) (watchAt enter' r' h' p e) :=
  watchAt_related_nodes hR p e fun x hx => (hv x hx).2.node hR (hv x hx).1

/-- Two resolutions of a tree are related if the visits of all its nodes are. -/
theorem resolveAt_related (hR : Sequential R) (p : Place) (e : Effect)
    (hv : ∀ x ∈ e.nodesAt p, VisitRelated R r r' h h' x.1.length x.2) :
    R Unit (resolveAt r h p.length e) (resolveAt r' h' p.length e) := by
  rw [← watchAt_pure, ← watchAt_pure]
  exact watchAt_related hR p e fun x hx => ⟨hR.pure (), hv x hx⟩

end Effect

/-! ## Properties of one resolution -/

namespace Resolve

variable {σ α β : Type}

/-- From a run with the property `P` the part either succeeds and leaves a run as `Q` says of what
it has come to, or fails in a way that `E` allows. -/
def Leads (P : Run σ → Prop) (m : Resolve σ α) (Q : α → Run σ → Prop)
    (E : ResolveError → Run σ → Prop) : Prop :=
  ∀ run, P run →
    match exec m run with
    | (.ok a, run') => Q a run'
    | (.error e, run') => E e run'

theorem leads_bind {P : Run σ → Prop} {m : Resolve σ α} {Q : α → Run σ → Prop}
    {f : α → Resolve σ β} {Q' : β → Run σ → Prop} {E : ResolveError → Run σ → Prop}
    (hm : Leads P m Q E) (hf : ∀ a, Leads (Q a) (f a) Q' E) : Leads P (m >>= f) Q' E := by
  intro run hP
  have hfirst := hm run hP
  rw [exec_bind]
  generalize exec m run = outcome at hfirst ⊢
  obtain ⟨e | a, run'⟩ := outcome
  · exact hfirst
  · exact hf a run' hfirst

/-- From a run with the property `I` the part either succeeds and leaves such a run, or fails in a
way that `E` allows. -/
def Keeps (I : Run σ → Prop) (E : ResolveError → Run σ → Prop) (m : Resolve σ α) : Prop :=
  ∀ run, I run →
    match exec m run with
    | (.ok _, run') => I run'
    | (.error e, run') => E e run'

theorem keeps_pure {I : Run σ → Prop} {E : ResolveError → Run σ → Prop} (a : α) :
    Keeps I E (pure a) := fun _ hI => hI

theorem keeps_bind {I : Run σ → Prop} {E : ResolveError → Run σ → Prop} {m : Resolve σ α}
    {f : α → Resolve σ β} (hm : Keeps I E m) (hf : ∀ a, Keeps I E (f a)) :
    Keeps I E (m >>= f) := leads_bind hm hf

/-- What a part keeps even if it fails is there after it. -/
theorem Keeps.exec_snd {I : Run σ → Prop} {m : Resolve σ α} (hm : Keeps I (fun _ => I) m)
    {run : Run σ} (hI : I run) : I (exec m run).2 := by
  have hend := hm run hI
  generalize exec m run = outcome at hend ⊢
  obtain ⟨_ | a, run'⟩ := outcome <;> exact hend

theorem Keeps.exec_of_error {I : Run σ → Prop} {E : ResolveError → Run σ → Prop}
    {m : Resolve σ α} (hm : Keeps I E m) {run : Run σ} (hI : I run) {e : ResolveError}
    (he : (exec m run).1 = .error e) : E e (exec m run).2 := by
  have hend := hm run hI
  generalize exec m run = outcome at hend he ⊢
  obtain ⟨_ | a, run'⟩ := outcome
  · cases he
    exact hend
  · cases he

theorem sequential_keeps (I : Run σ → Prop) (E : ResolveError → Run σ → Prop) :
    Sequential (fun _ m (_ : Resolve σ _) => Keeps I E m) :=
  ⟨keeps_pure, keeps_bind⟩

theorem grows_bind {m : Resolve σ α} {f : α → Resolve σ β}
    (hm : ∀ run : Run σ, run.calls <+: (exec m run).2.calls)
    (hf : ∀ a (run : Run σ), run.calls <+: (exec (f a) run).2.calls) (run : Run σ) :
    run.calls <+: (exec (m >>= f) run).2.calls := by
  have hfirst := hm run
  rw [exec_bind]
  generalize exec m run = outcome at hfirst ⊢
  obtain ⟨_ | a, run'⟩ := outcome
  · exact hfirst
  · exact hfirst.trans (hf a run')

end Resolve

namespace Effect

open Resolve

variable {σ : Type} {r : Rules} {h : Handler σ} {enter : Place → Resolve σ Unit}

/-- A watched resolution keeps what is kept on entering the nodes of the tree and by what is done at
them. -/
theorem keeps_watchAt {I : Run σ → Prop} {E : ResolveError → Run σ → Prop} (p : Place) (e : Effect)
    (hv : ∀ x ∈ e.nodesAt p, Keeps I E (enter x.1) ∧
      VisitRelated (fun _ m (_ : Resolve σ _) => Keeps I E m) r r h h x.1.length x.2) :
    Keeps I E (watchAt enter r h p e) :=
  @watchAt_related σ σ _ r r h h enter enter (sequential_keeps I E) p e hv

end Effect

end CityCards
