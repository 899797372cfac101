import CityCards.City.State

/-!
# What repeated effects count

The targets of repeated effects: names for the numbers in the state of a city that say how often
the body is resolved.

Results:
* `Tally.count_totalActiveHope`, `Tally.count_totalActiveDiscontent`: totals are counted exactly,
  up to the greatest count.
-/

namespace CityCards

/-- Model of `IterationTarget`. A number in the state of a city that can be counted. -/
inductive Tally where
  | activeHope (k : HopeKind)
  | activeDiscontent (k : DiscontentKind)
  | childrenUsed
  | workersUsed
  | totalActiveHope
  | totalActiveDiscontent
  deriving DecidableEq, Repr

namespace Tally

/-- The targets by name. -/
def known : List (String × Tally) := [
  ("justicia_activa", .activeHope .justice),
  ("cuidado_activa", .activeHope .care),
  ("motivacion_activa", .activeHope .motivation),
  ("codicia_activa", .activeDiscontent .greed),
  ("ira_activa", .activeDiscontent .anger),
  ("apatia_activa", .activeDiscontent .apathy),
  ("niño_usado_esta_ronda", .childrenUsed),
  ("trabajador_usado_esta_ronda", .workersUsed),
  ("esperanza_activa_total", .totalActiveHope),
  ("descontento_activo_total", .totalActiveDiscontent)]

/-- Model of `parse`. The target of that name. -/
def parse? (s : String) : Option Tally := known.lookup s

/-- Model of `count`. What the target counts in a state, up to the greatest count. -/
def count (t : Tally) (g : GameState) : UInt32 :=
  match t with
  | .activeHope k => (g.hope k).active
  | .activeDiscontent k => (g.discontent k).active
  | .childrenUsed => g.roundData.childrenUsed
  | .workersUsed => g.roundData.workersUsed
  | .totalActiveHope => countOfNat g.totalActiveHope
  | .totalActiveDiscontent => countOfNat g.totalActiveDiscontent

theorem count_totalActiveHope (g : GameState) :
    (count .totalActiveHope g).toNat = min g.totalActiveHope maxCount := by
  simp [count, toNat_countOfNat]

theorem count_totalActiveDiscontent (g : GameState) :
    (count .totalActiveDiscontent g).toNat = min g.totalActiveDiscontent maxCount := by
  simp [count, toNat_countOfNat]

end Tally

end CityCards
