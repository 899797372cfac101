import CityCards.City.Kinds
import CityCards.City.Ledger
import CityCards.City.NameSet

/-!
# The state of a city

Everything that conditions look at and that applied effects change: tokens, stocks, citizens, the
levels of hunger and stress, buildings, laws, and what has happened in the current round.

Counts are words of 32 bits, and changes of counts are signed words of 64. A change is added to a
count as a signed word, so that no sum wraps around, and only then is the sum made a count again.

Results:
* `toInt_saturatingAdd`: a saturating sum is exact up to the bounds of signed words.
* `toNat_addClamped`: a change of a count is exact up to the bounds of counts.
-/

namespace CityCards

/-- Model of `TokenCount`. How many tokens of a kind are active and how many are exhausted. -/
structure TokenCount where
  active : UInt32
  exhausted : UInt32
  deriving DecidableEq, Repr

/-- Model of `RoundData`. How often children and workers have been put to work in the current
round. -/
structure RoundData where
  childrenUsed : UInt32
  workersUsed : UInt32
  deriving DecidableEq, Repr

/-- Model of `GameState`: the state of a city. -/
structure GameState where
  hopeTokens : Ledger HopeKind TokenCount
  discontentTokens : Ledger DiscontentKind TokenCount
  resources : Ledger ResourceKind UInt32
  citizens : Ledger CitizenKind UInt32
  hunger : Int64
  stress : Int64
  buildings : NameSet
  laws : NameSet
  roundData : RoundData
  deriving DecidableEq

/-- The greatest count. -/
def maxCount : Nat := 2 ^ 32 - 1

/-- The count nearest to a natural number. -/
def countOfNat (n : Nat) : UInt32 := UInt32.ofNat (min n maxCount)

/-- Model of `saturating_add`. The sum of two signed words, or the bound that it is beyond. -/
def saturatingAdd (a b : Int64) : Int64 :=
  if a.toBitVec.saddOverflow b.toBitVec then if b < 0 then Int64.minValue else Int64.maxValue
  else a + b

/-- Model of `try_from`. The count that a signed word is, unless it is below zero or too great for a
count. -/
def countOfWord? (n : Int64) : Option UInt32 :=
  if 0 ≤ n ∧ n ≤ 4294967295 then some n.toUInt64.toUInt32 else none

/-- Model of `clamp_add`. The sum of a count and a signed change, kept between zero and the greatest
count. -/
def addClamped (count : UInt32) (delta : Int64) : UInt32 :=
  let next := saturatingAdd count.toUInt64.toInt64 delta
  (countOfWord? (max next 0)).getD 4294967295

namespace TokenCount

/-- No tokens. -/
def zero : TokenCount := ⟨0, 0⟩

/-- Model of `total`. All tokens of the kind, up to the greatest count. -/
def total (t : TokenCount) : UInt32 := countOfNat (t.active.toNat + t.exhausted.toNat)

end TokenCount

namespace GameState

/-- Model of `new`. A city without tokens, stocks, citizens, buildings and laws. -/
def empty : GameState :=
  ⟨.empty, .empty, .empty, .empty, 0, 0, .empty, .empty, ⟨0, 0⟩⟩

/-! ## Looking at the state -/

/-- Model of `hope`. The hope tokens of a kind. -/
def hope (g : GameState) (k : HopeKind) : TokenCount := (g.hopeTokens.get? k).getD .zero

/-- Model of `discontent`. The discontent tokens of a kind. -/
def discontent (g : GameState) (k : DiscontentKind) : TokenCount :=
  (g.discontentTokens.get? k).getD .zero

/-- Model of `resource`. The stock of a resource. -/
def resource (g : GameState) (k : ResourceKind) : UInt32 := (g.resources.get? k).getD 0

/-- Model of `citizens_of`. The number of citizens of a role. -/
def citizensOf (g : GameState) (k : CitizenKind) : UInt32 := (g.citizens.get? k).getD 0

/-- The active tokens in all entries of a ledger. -/
def totalActive {κ : Type} [Vocabulary κ] [DecidableEq κ] (l : Ledger κ TokenCount) : Nat :=
  l.entries.foldr (fun e total => e.2.active.toNat + total) 0

/-- Model of `total_active_hope`. The active hope tokens of all kinds. -/
def totalActiveHope (g : GameState) : Nat := totalActive g.hopeTokens

/-- Model of `total_active_discontent`. The active discontent tokens of all kinds. -/
def totalActiveDiscontent (g : GameState) : Nat := totalActive g.discontentTokens

/-- Model of `has_building`. The building stands. -/
def hasBuilding (g : GameState) (id : String) : Bool := g.buildings.contains id

/-- Model of `has_law`. The law is in force. -/
def hasLaw (g : GameState) (id : String) : Bool := g.laws.contains id

/-! ## Changing the state -/

/-- Model of `set_hope`. Enters the hope tokens of a kind. -/
def setHope (g : GameState) (k : HopeKind) (t : TokenCount) : GameState :=
  { g with hopeTokens := g.hopeTokens.set k t }

/-- Model of `hope_mut`. Changes the hope tokens of a kind, entering them if need be. -/
def updateHope (g : GameState) (k : HopeKind) (f : TokenCount → TokenCount) : GameState :=
  g.setHope k (f (g.hope k))

/-- Model of `set_discontent`. Enters the discontent tokens of a kind. -/
def setDiscontent (g : GameState) (k : DiscontentKind) (t : TokenCount) : GameState :=
  { g with discontentTokens := g.discontentTokens.set k t }

/-- Model of `discontent_mut`. Changes the discontent tokens of a kind, entering them if need be. -/
def updateDiscontent (g : GameState) (k : DiscontentKind) (f : TokenCount → TokenCount) :
    GameState :=
  g.setDiscontent k (f (g.discontent k))

/-- Model of `set_resource`. Enters the stock of a resource. -/
def setResource (g : GameState) (k : ResourceKind) (n : UInt32) : GameState :=
  { g with resources := g.resources.set k n }

/-- Model of `modify_resource`. Adds a signed amount to a stock. -/
def modifyResource (g : GameState) (k : ResourceKind) (delta : Int64) : GameState :=
  g.setResource k (addClamped (g.resource k) delta)

/-- Model of `set_citizens`. Enters the number of citizens of a role. -/
def setCitizens (g : GameState) (k : CitizenKind) (n : UInt32) : GameState :=
  { g with citizens := g.citizens.set k n }

/-- Model of `modify_citizens`. Adds a signed amount to the citizens of a role. -/
def modifyCitizens (g : GameState) (k : CitizenKind) (delta : Int64) : GameState :=
  g.setCitizens k (addClamped (g.citizensOf k) delta)

/-- Sets the level of hunger. -/
def setHunger (g : GameState) (n : Int64) : GameState := { g with hunger := n }

/-- Sets the level of stress. -/
def setStress (g : GameState) (n : Int64) : GameState := { g with stress := n }

/-- Model of `add_building`. Adds a building. -/
def addBuilding (g : GameState) (id : String) : GameState :=
  { g with buildings := g.buildings.insert id }

/-- Model of `remove_building`. Removes a building. -/
def removeBuilding (g : GameState) (id : String) : GameState :=
  { g with buildings := g.buildings.erase id }

/-- Model of `enact_law`. Puts a law in force. -/
def enactLaw (g : GameState) (id : String) : GameState := { g with laws := g.laws.insert id }

/-- Model of `repeal_law`. Repeals a law. -/
def repealLaw (g : GameState) (id : String) : GameState := { g with laws := g.laws.erase id }

/-- Sets the counters of the round. -/
def setRound (g : GameState) (r : RoundData) : GameState := { g with roundData := r }

/-- Model of `reset_round`. Clears the counters of the round. -/
def resetRound (g : GameState) : GameState := g.setRound ⟨0, 0⟩

end GameState

theorem toNat_countOfNat (n : Nat) : (countOfNat n).toNat = min n maxCount :=
  UInt32.toNat_ofNat_of_lt (Nat.lt_of_le_of_lt (Nat.min_le_right n maxCount) (by decide))

theorem toInt_saturatingAdd (a b : Int64) :
    (saturatingAdd a b).toInt = max (min (a.toInt + b.toInt) (2 ^ 63 - 1)) (-2 ^ 63) := by
  have ha := a.toInt_lt
  have ha' := a.le_toInt
  have hb : b < 0 ↔ b.toInt < 0 := Int64.lt_iff_toInt_lt
  have hmin : Int64.minValue.toInt = -2 ^ 63 := rfl
  have hmax : Int64.maxValue.toInt = 2 ^ 63 - 1 := rfl
  unfold saturatingAdd
  by_cases hover : a.toBitVec.saddOverflow b.toBitVec
  · have hbeyond : a.toInt + b.toInt ≥ 2 ^ 63 ∨ a.toInt + b.toInt < -2 ^ 63 := by
      simpa [BitVec.saddOverflow] using hover
    rw [if_pos hover]
    by_cases hneg : b < 0
    · rw [if_pos hneg, hmin]
      rw [hb] at hneg
      omega
    · rw [if_neg hneg, hmax]
      rw [hb] at hneg
      omega
  · have hsum : (a + b).toInt = a.toInt + b.toInt := BitVec.toInt_add_of_not_saddOverflow hover
    have h := (a + b).toInt_lt
    have h' := (a + b).le_toInt
    rw [if_neg hover]
    omega

theorem toInt_max_zero (n : Int64) : (max n 0).toInt = max n.toInt 0 := by
  have hle : n ≤ 0 ↔ n.toInt ≤ 0 := Int64.le_iff_toInt_le
  have hmax : max n 0 = if n ≤ 0 then 0 else n := rfl
  rw [hmax]
  by_cases h : n ≤ 0
  · rw [if_pos h, Int.max_eq_right (hle.mp h)]
    rfl
  · rw [if_neg h, Int.max_eq_left (Int.le_of_lt (Int.not_le.mp (mt hle.mpr h)))]

/-- A signed word that is not below zero becomes the nearest count. -/
theorem toNat_countOfWord? {n : Int64} (hn : 0 ≤ n.toInt) :
    (((countOfWord? n).getD 4294967295).toNat : Int) = min n.toInt (2 ^ 32 - 1) := by
  have hzero : 0 ≤ n := Int64.le_iff_toInt_le.mpr hn
  have hle : n ≤ 4294967295 ↔ n.toInt ≤ 2 ^ 32 - 1 := Int64.le_iff_toInt_le
  unfold countOfWord?
  by_cases h : n ≤ 4294967295
  · have hn' := hle.mp h
    rw [if_pos ⟨hzero, h⟩, Option.getD_some, UInt64.toNat_toUInt32,
      Int64.toNat_toUInt64_of_le hzero]
    have : (n.toNatClampNeg : Int) = n.toInt := Int.toNat_of_nonneg hn
    omega
  · have hn' := mt hle.mpr h
    rw [if_neg fun hboth => h hboth.2, Option.getD_none]
    have : ((4294967295 : UInt32).toNat : Int) = 2 ^ 32 - 1 := rfl
    omega

theorem toNat_addClamped (count : UInt32) (delta : Int64) :
    ((addClamped count delta).toNat : Int) =
      min (max (count.toNat + delta.toInt) 0) (2 ^ 32 - 1) := by
  have hword : count.toUInt64.toInt64.toInt = count.toNat := by
    have hlt := count.toNat_lt
    have hbits : count.toUInt64.toInt64.toBitVec.toNat = count.toNat := rfl
    rw [← Int64.toInt_toBitVec, BitVec.toInt_eq_toNat_of_lt, hbits]
    omega
  have hsum := toInt_saturatingAdd count.toUInt64.toInt64 delta
  have hnext := toInt_max_zero (saturatingAdd count.toUInt64.toInt64 delta)
  -- The sum can only be beyond a bound of words where it is beyond a bound of counts.
  have hcount := count.toNat_lt
  have hdelta := delta.toInt_lt
  have hdelta' := delta.le_toInt
  unfold addClamped
  rw [toNat_countOfWord? (by omega)]
  omega

end CityCards
