import CityCards.Proofs.Chance.Resumption

/-!
# Draws and forks side by side

A draw moves a generator on in its keystream, and a fork makes it count one more. Neither looks at
what the other changes. So however they alternate, the draws yield what they would yield without the
forks, and the forks are the generators that they would be without the draws. A fork is a generator
of its own, and what is done with one generator of a pool leaves all others as they are.

Main definitions:
* `Generator.run`: what steps in a row yield, and the generator after them.
* `Generator.numbered`: the generator that is forked off from a seed under a number.
* `Generator.Pool`: generators, some of which have been forked off from others.

Results:
* `Generator.run_withoutForks`: steps without the forks among them.
* `Generator.run_withoutDraws`: steps without the draws among them.
* `Generator.children_of_run`: the forks are the generators with the next numbers.
* `Generator.Pool.run_own`: a generator in a pool goes on by its own steps, as it would alone.
* `Generator.run_apart`: what that means for one generator and all that is forked off from it.
-/

namespace CityCards.Generator

/-- The step forks off a generator. -/
def Step.isFork : Step → Bool
  | .fork => true
  | _ => false

/-- The step draws from the keystream. -/
def Step.isDraw : Step → Bool
  | .count .. => true
  | .indices .. => true
  | .choose _ => true
  | _ => false

/-- The generator that has been forked off. -/
def Yield.child? : Yield → Option Generator
  | .child g => some g
  | _ => none

/-- It has been drawn from the keystream. -/
def Yield.isDrawn : Yield → Bool
  | .number _ => true
  | .picks _ => true
  | _ => false

theorem Step.eq_fork_of_isFork {s : Step} (h : s.isFork = true) : s = .fork := by
  cases s with
  | fork => rfl
  | _ => cases h

theorem Step.isFork_of_isDraw {s : Step} (h : s.isDraw = true) : s.isFork = false := by
  cases s with
  | fork => cases h
  | _ => rfl

theorem Yield.child?_of_isDrawn {y : Yield} (h : y.isDrawn = true) : y.child? = none := by
  cases y with
  | child => cases h
  | _ => rfl

/-- What steps in a row yield, and the generator after them; nothing if a draw does not end. -/
def run : List Step → Generator → Option (List Yield × Generator)
  | [], g => some ([], g)
  | s :: rest, g => do
    let (y, next) ← g.step s
    let (ys, last) ← next.run rest
    return (y :: ys, last)

/-- The steps apart from the forks. -/
def withoutForks (steps : List Step) : List Step := steps.filter fun s => !s.isFork

/-- The steps apart from the draws. -/
def withoutDraws (steps : List Step) : List Step := steps.filter fun s => !s.isDraw

/-- The generator that is forked off from a seed under a number. -/
def numbered (seed : UInt64) (n : Nat) : Generator := ofSeed (seed + UInt64.ofNat n * forkDistance)

/-! ## One step -/

theorem run_cons (s : Step) (rest : List Step) (g : Generator) :
    g.run (s :: rest) =
      (g.step s).bind fun r => (r.2.run rest).map fun q => (r.1 :: q.1, q.2) := by
  rw [run]
  cases g.step s with
  | none => rfl
  | some r => cases hr : r.2.run rest <;> simp [hr]

theorem run_cons_cases {s : Step} {rest : List Step} {g last : Generator} {ys : List Yield}
    (h : g.run (s :: rest) = some (ys, last)) :
    ∃ y next ys', g.step s = some (y, next) ∧ next.run rest = some (ys', last) ∧ ys = y :: ys' := by
  rw [run_cons] at h
  obtain ⟨⟨y, next⟩, hstep, hrest⟩ := Option.bind_eq_some_iff.mp h
  obtain ⟨⟨ys', last'⟩, hrun, heq⟩ := Option.map_eq_some_iff.mp hrest
  cases heq
  exact ⟨y, next, ys', hstep, hrun, rfl⟩

/-- All that a step can do: a draw moves on in the keystream, a fork counts, and to resume changes
nothing. -/
theorem step_cases {s : Step} {y : Yield} {g next : Generator} (h : g.step s = some (y, next)) :
    (s.isDraw = true ∧ y.isDrawn = true ∧ next = { g with position := next.position }) ∨
      (s = .fork ∧ y = .child g.fork.1 ∧ next = g.fork.2) ∨
      (s = .resume ∧ y = .resumed ∧ next = g) := by
  have hdraw {α : Type} {d : Draw α} {f : α → Yield}
      (hd : (g.draw d).map (fun r => (f r.1, r.2)) = some (y, next)) :
      ∃ a, y = f a ∧ next = { g with position := next.position } := by
    obtain ⟨⟨a, g'⟩, hr, heq⟩ := Option.map_eq_some_iff.mp hd
    obtain ⟨⟨b, p⟩, -, hg'⟩ := Option.map_eq_some_iff.mp hr
    cases hg'
    cases heq
    exact ⟨b, rfl, rfl⟩
  cases s with
  | count low high =>
    obtain ⟨n, rfl, hnext⟩ := hdraw h
    exact Or.inl ⟨rfl, rfl, hnext⟩
  | indices len amount =>
    obtain ⟨is, rfl, hnext⟩ := hdraw h
    exact Or.inl ⟨rfl, rfl, hnext⟩
  | choose c =>
    obtain ⟨is, rfl, hnext⟩ := hdraw h
    exact Or.inl ⟨rfl, rfl, hnext⟩
  | fork =>
    cases h
    exact Or.inr (Or.inl ⟨rfl, rfl, rfl⟩)
  | resume =>
    rw [step_resume] at h
    cases h
    exact Or.inr (Or.inr ⟨rfl, rfl, rfl⟩)

/-- A step that is no fork does not look at the number of forks, and leaves it as it is. -/
theorem step_withForks {s : Step} (hs : s.isFork = false) (g : Generator) (n : UInt64) :
    step s { g with forks := n } =
      (g.step s).map fun r => (r.1, { r.2 with forks := n }) := by
  have hdraw {α : Type} (d : Draw α) :
      draw d { g with forks := n } = (g.draw d).map fun r => (r.1, { r.2 with forks := n }) := by
    rw [draw, draw, Option.map_map]
    rfl
  cases s with
  | fork => cases hs
  | resume =>
    rw [step_resume, step_resume]
    rfl
  | _ =>
    rw [step, step, hdraw, Option.map_map, Option.map_map]
    rfl

/-- A step that is no draw does not look at the place in the keystream, and leaves it as it is. -/
theorem step_withPosition {s : Step} (hs : s.isDraw = false) (g : Generator) (p : Position) :
    step s { g with position := p } =
      (g.step s).map fun r => (r.1, { r.2 with position := p }) := by
  cases s with
  | fork => rfl
  | resume =>
    rw [step_resume, step_resume]
    rfl
  | _ => cases hs

theorem fork_eq_numbered (g : Generator) : g.fork.1 = numbered g.seed (g.forks.toNat + 1) := by
  rw [numbered, UInt64.ofNat_add, UInt64.ofNat_toNat]
  rfl

/-- A count that has wrapped around leads to the same generators. -/
theorem numbered_fork (g : Generator) (n : Nat) :
    numbered g.seed (g.fork.2.forks.toNat + n) = numbered g.seed (g.forks.toNat + (n + 1)) := by
  have hforks : g.fork.2.forks = g.forks + 1 := rfl
  have hone : UInt64.ofNat 1 = 1 := rfl
  rw [numbered, numbered, hforks, UInt64.ofNat_add, UInt64.ofNat_add, UInt64.ofNat_add,
    UInt64.ofNat_toNat, UInt64.ofNat_toNat, hone, UInt64.add_assoc, UInt64.add_comm 1]

/-! ## Steps in a row -/

/-- Without the forks the other steps yield what they do with them, and end where they end with
them. -/
theorem run_withoutForks (steps : List Step) (g : Generator) (n : UInt64) :
    run (withoutForks steps) { g with forks := n } =
      (g.run steps).map fun r =>
        (r.1.filter fun y => y.child?.isNone, { r.2 with forks := n }) := by
  induction steps generalizing g with
  | nil => rfl
  | cons s rest ih =>
    cases hs : s.isFork with
    | true =>
      obtain rfl := Step.eq_fork_of_isFork hs
      have hfork := ih g.fork.2
      rw [run_cons, step, Option.bind_some, Option.map_map]
      exact hfork
    | false =>
      have hkept : withoutForks (s :: rest) = s :: withoutForks rest :=
        List.filter_cons_of_pos (by rw [hs]; rfl)
      rw [hkept, run_cons, run_cons, step_withForks hs]
      cases hstep : g.step s with
      | none => rfl
      | some r =>
        obtain ⟨y, next⟩ := r
        have hy : y.child?.isNone = true := by
          obtain ⟨-, hy, -⟩ | ⟨rfl, -, -⟩ | ⟨-, rfl, -⟩ := step_cases hstep
          · rw [Yield.child?_of_isDrawn hy]
            rfl
          · cases hs
          · rfl
        rw [Option.map_some, Option.bind_some, Option.bind_some, ih next, Option.map_map,
          Option.map_map]
        refine congrArg (Option.map · (next.run rest)) (funext fun q => ?_)
        refine Prod.ext (Eq.symm ?_) rfl
        exact List.filter_cons_of_pos (p := fun y : Yield => y.child?.isNone) hy

/-- Without the draws the other steps yield what they do with them. -/
theorem run_withoutDraws {steps : List Step} {g last : Generator} {ys : List Yield}
    (h : g.run steps = some (ys, last)) (p : Position) :
    run (withoutDraws steps) { g with position := p } =
      some (ys.filter fun y => !y.isDrawn, { last with position := p }) := by
  induction steps generalizing g ys with
  | nil =>
    cases h
    rfl
  | cons s rest ih =>
    obtain ⟨y, next, ys', hstep, hrun, rfl⟩ := run_cons_cases h
    have hlater := ih hrun
    cases hs : s.isDraw with
    | true =>
      obtain ⟨-, hy, hnext⟩ | ⟨rfl, -, -⟩ | ⟨rfl, -, -⟩ := step_cases hstep
      · have hdropped : withoutDraws (s :: rest) = withoutDraws rest :=
          List.filter_cons_of_neg (by rw [hs]; decide)
        rw [hdropped, List.filter_cons_of_neg (by rw [hy]; decide), ← hlater, hnext]
      · cases hs
      · cases hs
    | false =>
      have hkept : withoutDraws (s :: rest) = s :: withoutDraws rest :=
        List.filter_cons_of_pos (by rw [hs]; rfl)
      have hy : y.isDrawn = false := by
        obtain ⟨hdraw, -, -⟩ | ⟨-, rfl, -⟩ | ⟨-, rfl, -⟩ := step_cases hstep
        · rw [hs] at hdraw
          cases hdraw
        · rfl
        · rfl
      rw [hkept, run_cons, step_withPosition hs, hstep, Option.map_some, Option.bind_some, hlater,
        Option.map_some, List.filter_cons_of_pos (by rw [hy]; rfl)]

/-- The generators that are forked off have the numbers that follow the forks before. -/
theorem children_of_run {steps : List Step} {g last : Generator} {ys : List Yield}
    (h : g.run steps = some (ys, last)) :
    ys.filterMap Yield.child? =
      (List.range (steps.countP Step.isFork)).map fun n =>
        numbered g.seed (g.forks.toNat + (n + 1)) := by
  induction steps generalizing g ys with
  | nil =>
    cases h
    rfl
  | cons s rest ih =>
    obtain ⟨y, next, ys', hstep, hrun, rfl⟩ := run_cons_cases h
    have hlater := ih hrun
    obtain ⟨hs, hy, hnext⟩ | ⟨rfl, rfl, rfl⟩ | ⟨rfl, rfl, rfl⟩ := step_cases hstep
    · have hfork : ¬s.isFork = true := by simp [Step.isFork_of_isDraw hs]
      rw [List.filterMap_cons_none (Yield.child?_of_isDrawn hy), List.countP_cons_of_neg hfork,
        hlater, hnext]
    · have hchild : (Yield.child g.fork.1).child? = some g.fork.1 := rfl
      rw [List.filterMap_cons_some hchild, List.countP_cons_of_pos rfl, List.range_succ_eq_map,
        List.map_cons, List.map_map, hlater, fork_eq_numbered]
      refine congrArg _ (List.map_congr_left fun n _ => ?_)
      exact numbered_fork g (n + 1)
    · have hchild : Yield.resumed.child? = none := rfl
      rw [List.filterMap_cons_none hchild, List.countP_cons_of_neg (by decide), hlater]

/-! ## Generators beside each other -/

/-- Generators, some of which may have been forked off from others. -/
abbrev Pool := List Generator

/-- Of what concerns the generators at some places, that which concerns the one at this place. -/
def own {α : Type} (i : Nat) (xs : List (Nat × α)) : List α :=
  (xs.filter fun x => x.1 = i).map Prod.snd

theorem own_cons_self {α : Type} (i : Nat) (a : α) (xs : List (Nat × α)) :
    own i ((i, a) :: xs) = a :: own i xs := by
  simp [own]

theorem own_cons_of_ne {α : Type} {i j : Nat} (h : j ≠ i) (a : α) (xs : List (Nat × α)) :
    own i ((j, a) :: xs) = own i xs := by
  simp [own, h]

namespace Pool

/-- A step of the generator at a place. If it forks off another one, then this comes last. -/
def step (i : Nat) (s : Step) (pool : Pool) : Option (Yield × Pool) := do
  let g ← pool[i]?
  let (y, next) ← g.step s
  return (y, pool.set i next ++ y.child?.toList)

/-- What the generators at the given places yield by steps in a row, and the pool after them. -/
def run : List (Nat × Step) → Pool → Option (List (Nat × Yield) × Pool)
  | [], pool => some ([], pool)
  | (i, s) :: rest, pool => do
    let (y, next) ← pool.step i s
    let (ys, last) ← next.run rest
    return ((i, y) :: ys, last)

/-- The generators that have been forked off. -/
def children (ys : List (Nat × Yield)) : Pool := ys.filterMap fun y => y.2.child?

theorem step_cases {i : Nat} {s : Step} {y : Yield} {pool next : Pool}
    (h : pool.step i s = some (y, next)) :
    ∃ g r, pool[i]? = some g ∧ g.step s = some (y, r) ∧
      next = pool.set i r ++ y.child?.toList := by
  obtain ⟨g, hg, hrest⟩ := Option.bind_eq_some_iff.mp h
  obtain ⟨⟨y', r⟩, hr, heq⟩ := Option.bind_eq_some_iff.mp hrest
  cases heq
  exact ⟨g, r, hg, hr, rfl⟩

theorem run_cons_cases {i : Nat} {s : Step} {rest : List (Nat × Step)} {ys : List (Nat × Yield)}
    {pool last : Pool} (h : pool.run ((i, s) :: rest) = some (ys, last)) :
    ∃ y next ys', pool.step i s = some (y, next) ∧ next.run rest = some (ys', last) ∧
      ys = (i, y) :: ys' := by
  obtain ⟨⟨y, next⟩, hstep, hrest⟩ := Option.bind_eq_some_iff.mp h
  obtain ⟨⟨ys', last'⟩, hrun, heq⟩ := Option.bind_eq_some_iff.mp hrest
  cases heq
  exact ⟨y, next, ys', hstep, hrun, rfl⟩

/-- A generator yields by its own steps what it would yield alone, and is after them what it would
be alone; it may have been in the pool from the beginning or have been forked off since. -/
theorem run_own {ops : List (Nat × Step)} {ys : List (Nat × Yield)} {pool last : Pool}
    (h : pool.run ops = some (ys, last)) {i : Nat} {g : Generator}
    (hg : (pool ++ children ys)[i]? = some g) :
    ∃ g', last[i]? = some g' ∧ g.run (own i ops) = some (own i ys, g') := by
  induction ops generalizing pool ys g with
  | nil =>
    cases h
    rw [children, List.filterMap_nil, List.append_nil] at hg
    exact ⟨g, hg, rfl⟩
  | cons op rest ih =>
    obtain ⟨j, s⟩ := op
    obtain ⟨y, next, ys', hstep, hrun, rfl⟩ := run_cons_cases h
    obtain ⟨a, r, ha, hr, rfl⟩ := step_cases hstep
    obtain ⟨hj, -⟩ := List.getElem?_eq_some_iff.mp ha
    have hborn : pool.set j r ++ y.child?.toList ++ children ys' =
        (pool ++ children ((j, y) :: ys')).set j r := by
      rw [List.set_append_left _ _ hj, List.append_assoc, children, children]
      cases hy : y.child? <;> simp [hy]
    by_cases hij : j = i
    · subst hij
      obtain rfl : a = g := by
        rw [List.getElem?_append_left hj, ha] at hg
        exact Option.some.inj hg
      have hlt : j < (pool ++ children ((j, y) :: ys')).length := by
        rw [List.length_append]
        omega
      have hself : (pool.set j r ++ y.child?.toList ++ children ys')[j]? = some r := by
        rw [hborn, List.getElem?_set_self hlt]
      obtain ⟨g', hlast, halone⟩ := ih hrun hself
      refine ⟨g', hlast, ?_⟩
      rw [own_cons_self, own_cons_self, run_cons, hr, Option.bind_some, halone, Option.map_some]
    · have hother : (pool.set j r ++ y.child?.toList ++ children ys')[i]? = some g := by
        rw [hborn, List.getElem?_set_ne hij, hg]
      rw [own_cons_of_ne hij, own_cons_of_ne hij]
      exact ih hrun hother

end Pool

/-! ## Draws and forks apart -/

/-- Steps without the forks yield what the others among them yield with the forks, and end if and
only if they end with the forks. If they end, then without the draws the same generators are forked
off, and which these are says the seed with the numbers that follow the forks before. Whatever is
done in turn with a generator and all generators that stem from it, each of them yields, and is in
the end, what it would yield and be if nothing were done but its own steps. -/
theorem run_apart (g : Generator) (steps : List Step) :
    (g.run (withoutForks steps) = (g.run steps).map fun r =>
      (r.1.filter fun y => y.child?.isNone, { r.2 with forks := g.forks })) ∧
    (∀ ys last, g.run steps = some (ys, last) →
      g.run (withoutDraws steps) =
        some (ys.filter fun y => !y.isDrawn, { last with position := g.position }) ∧
      ys.filterMap Yield.child? = (List.range (steps.countP Step.isFork)).map fun n =>
        numbered g.seed (g.forks.toNat + (n + 1))) ∧
    ∀ ops ys last, Pool.run ops [g] = some (ys, last) →
      ∀ i a, (g :: Pool.children ys)[i]? = some a →
        ∃ a', last[i]? = some a' ∧ a.run (own i ops) = some (own i ys, a') := by
  refine ⟨run_withoutForks steps g g.forks, fun ys last h => ⟨?_, children_of_run h⟩, ?_⟩
  · exact run_withoutDraws h g.position
  · intro ops ys last h i a ha
    exact Pool.run_own h ha

end CityCards.Generator
