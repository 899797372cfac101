import Mathlib.Algebra.GroupWithZero.Nat
import CityCards.Condition.Outcome
import CityCards.Effect.Tally
import CityCards.Proofs.City.Alike

/-!
# Totals in words

Totals are natural numbers, and no harm can come to them. A machine has words: it adds up counts of
32 bits in a word of 64, in the order in which it happens to keep the entries; it compares totals as
signed words; and it repeats bodies as often as a count of 32 bits says. In each of these steps a
total may be too great for a word. The first two never lose anything, since there are few kinds, and
in the last a total that is too great becomes the greatest count.

Main definitions:
* `Word.sum?`: words added up one after the other, unless a sum is too great for a word.
* `Word.signed`, `Word.narrowed`: the nearest signed word, and the nearest count.
* `Ledger.wordTotal?`: the active tokens of entries, added up in words.

Results:
* `Word.sum?_eq_some_iff`: words can be added up exactly if their sum is a word.
* `Ledger.exists_wordTotal`: with few kinds, totals are added up without overflow, in any order.
* `GameState.totals_exact`: what that means wherever totals are read.
-/

namespace CityCards

/-! ## Words -/

namespace Word

/-- The sum of two words, if it is a word. -/
def add? (a b : UInt64) : Option UInt64 :=
  if a.toNat + b.toNat < 2 ^ 64 then some (a + b) else none

/-- Words added up from left to right, as long as sums are words. -/
def sum? (ws : List UInt64) : Option UInt64 := ws.foldlM add? 0

/-- The signed word that is nearest to a word. -/
def signed (w : UInt64) : Int64 := if w.toNat < 2 ^ 63 then w.toInt64 else Int64.maxValue

/-- The count that is nearest to a word. -/
def narrowed (w : UInt64) : UInt32 := if w.toNat < 2 ^ 32 then w.toUInt32 else 4294967295

theorem add?_eq_some_iff {a b c : UInt64} : add? a b = some c ↔ c.toNat = a.toNat + b.toNat := by
  unfold add?
  by_cases h : a.toNat + b.toNat < 2 ^ 64
  · have hsum : (a + b).toNat = a.toNat + b.toNat := by
      rw [UInt64.toNat_add, Nat.mod_eq_of_lt h]
    rw [if_pos h, Option.some_inj, ← UInt64.toNat_inj, hsum, eq_comm]
  · have hc := c.toNat_lt
    rw [if_neg h]
    constructor
    · intro hnone
      cases hnone
    · intro hsum
      omega

/-- Words can be added up exactly if their sum is a word, and then the result is their sum: no sum
on the way is too great if the last is not. -/
theorem sum?_eq_some_iff {ws : List UInt64} {w : UInt64} :
    sum? ws = some w ↔ w.toNat = (ws.map UInt64.toNat).sum := by
  have hfold (a : UInt64) :
      ws.foldlM add? a = some w ↔ w.toNat = a.toNat + (ws.map UInt64.toNat).sum := by
    induction ws generalizing a with
    | nil => simp [← UInt64.toNat_inj, eq_comm]
    | cons b rest ih =>
      rw [List.foldlM_cons, List.map_cons, List.sum_cons, Option.bind_eq_bind,
        Option.bind_eq_some_iff]
      constructor
      · rintro ⟨c, hc, hrest⟩
        rw [add?_eq_some_iff] at hc
        rw [ih c] at hrest
        omega
      · intro hsum
        have hw := w.toNat_lt
        have hlt : a.toNat + b.toNat < 2 ^ 64 := by omega
        have hc : (a + b).toNat = a.toNat + b.toNat := by
          rw [UInt64.toNat_add, Nat.mod_eq_of_lt hlt]
        refine ⟨a + b, add?_eq_some_iff.mpr hc, (ih (a + b)).mpr ?_⟩
        omega
  have hzero := hfold 0
  rwa [show (0 : UInt64).toNat = 0 from rfl, Nat.zero_add] at hzero

/-- A word keeps its value as a signed word as long as it is below the greatest one. -/
theorem toInt_signed {w : UInt64} (h : w.toNat < 2 ^ 63) : (signed w).toInt = w.toNat := by
  have hbits : w.toInt64.toBitVec.toNat = w.toNat := rfl
  rw [signed, if_pos h, ← Int64.toInt_toBitVec, BitVec.toInt_eq_toNat_of_lt, hbits]
  rw [hbits]
  omega

theorem toNat_narrowed (w : UInt64) : (narrowed w).toNat = min w.toNat maxCount := by
  unfold narrowed maxCount
  by_cases h : w.toNat < 2 ^ 32
  · rw [if_pos h, UInt64.toNat_toUInt32, Nat.mod_eq_of_lt h]
    omega
  · rw [if_neg h]
    have hmax : (4294967295 : UInt32).toNat = 2 ^ 32 - 1 := rfl
    omega

end Word

/-! ## Totals of ledgers -/

namespace Ledger

variable {κ : Type}

/-- The active tokens of entries, added up in words in the order of the entries. -/
def wordTotal? (es : List (κ × TokenCount)) : Option UInt64 :=
  Word.sum? (es.map fun e => e.2.active.toUInt64)

variable [Vocabulary κ] [DecidableEq κ] {l : Ledger κ TokenCount} {es : List (κ × TokenCount)}

theorem totalActive_eq_sum_entries (l : Ledger κ TokenCount) :
    GameState.totalActive l = (l.entries.map fun e => e.2.active.toNat).sum := by
  rw [GameState.totalActive, List.sum_eq_foldr, List.foldr_map]

/-- In whatever order the entries are, the words add up to the total, if they add up at all. -/
theorem wordTotal?_eq_some_iff (h : es.Perm l.entries) {w : UInt64} :
    wordTotal? es = some w ↔ w.toNat = GameState.totalActive l := by
  have hwords : (es.map fun e => e.2.active.toUInt64).map UInt64.toNat =
      es.map fun e => e.2.active.toNat := by
    rw [List.map_map]
    rfl
  rw [wordTotal?, Word.sum?_eq_some_iff, hwords, totalActive_eq_sum_entries]
  rw [(h.map fun e => e.2.active.toNat).sum_nat]

theorem totalActive_le (l : Ledger κ TokenCount) :
    GameState.totalActive l ≤ Vocabulary.size κ * maxCount := by
  rw [GameState.totalActive_eq_sum, Vocabulary.size]
  have hcount (k : κ) : ((l.get? k).getD .zero).active.toNat ≤ maxCount := by
    have hlt := ((l.get? k).getD .zero).active.toNat_lt
    unfold maxCount
    omega
  induction (Vocabulary.all : List κ) with
  | nil => exact Nat.zero_le _
  | cons k rest ih =>
    rw [List.map_cons, List.sum_cons, List.length_cons, Nat.succ_mul, Nat.add_comm]
    exact Nat.add_le_add ih (hcount k)

/-- With few kinds, the words do add up, and the total fits into a signed word. -/
theorem exists_wordTotal (hsize : Vocabulary.size κ ≤ 2 ^ 31) (h : es.Perm l.entries) :
    ∃ w, wordTotal? es = some w ∧ w.toNat = GameState.totalActive l ∧ w.toNat < 2 ^ 63 := by
  have hlt : GameState.totalActive l < 2 ^ 63 := by
    calc GameState.totalActive l ≤ Vocabulary.size κ * maxCount := totalActive_le l
      _ ≤ 2 ^ 31 * maxCount := Nat.mul_le_mul_right maxCount hsize
      _ < 2 ^ 63 := by decide
  have hword : (UInt64.ofNat (GameState.totalActive l)).toNat = GameState.totalActive l :=
    UInt64.toNat_ofNat_of_lt (Nat.lt_trans hlt (by decide))
  exact ⟨_, (wordTotal?_eq_some_iff h).mpr hword, hword, by rwa [hword]⟩

end Ledger

/-! ## Totals of a city -/

namespace GameState

/-- A total of the city, kept in a word: it is that word, no less as a signed word, and bodies that
are repeated for the target are repeated as often as the word says, up to the greatest count. -/
structure ReadsTotal (g : GameState) (target : String) (total : Nat) (w : UInt64) : Prop where
  word : w.toNat = total
  signed : (Word.signed w).toInt = total
  repeated : ∃ t, Tally.parse? target = some t ∧ t.count g = Word.narrowed w ∧
    (t.count g).toNat = min total (2 ^ 32 - 1)

theorem readsTotal_of_count {g : GameState} {target : String} {t : Tally} {total : Nat}
    {w : UInt64} (ht : Tally.parse? target = some t) (hcount : t.count g = countOfNat total)
    (hword : w.toNat = total) (hlt : w.toNat < 2 ^ 63) : g.ReadsTotal target total w := by
  have htimes : (t.count g).toNat = min total maxCount := by rw [hcount, toNat_countOfNat]
  refine ⟨hword, by rw [Word.toInt_signed hlt, hword], t, ht, ?_, htimes⟩
  rw [← UInt32.toNat_inj, htimes, Word.toNat_narrowed, hword]

/-- In whatever order a machine keeps the entries of a city, it adds up the active tokens in words
without overflow, and comes to the sum over all kinds. To compare totals as signed words is to
compare these sums, and bodies that are repeated for a total are repeated as often as it says, up to
the greatest count. -/
theorem totals_exact (g : GameState) {hs : List (HopeKind × TokenCount)}
    {ds : List (DiscontentKind × TokenCount)} (hhope : hs.Perm g.hopeTokens.entries)
    (hdiscontent : ds.Perm g.discontentTokens.entries) :
    ∃ hope discontent : UInt64,
      Ledger.wordTotal? hs = some hope ∧ Ledger.wordTotal? ds = some discontent ∧
      g.totalActiveHope = (g.hope .justice).active.toNat + (g.hope .care).active.toNat +
        (g.hope .motivation).active.toNat ∧
      g.totalActiveDiscontent = (g.discontent .greed).active.toNat +
        (g.discontent .anger).active.toNat + (g.discontent .apathy).active.toNat ∧
      g.ReadsTotal "esperanza_activa_total" g.totalActiveHope hope ∧
      g.ReadsTotal "descontento_activo_total" g.totalActiveDiscontent discontent ∧
      ∀ (c : Condition) (custom : Option CustomEvaluator), c.type = .compareHopeDiscontent →
        c.outcome custom g = .decided
          (c.comparison.holds (Word.signed hope).toInt (Word.signed discontent).toInt) := by
  obtain ⟨hope, hsum, hword, hlt⟩ := Ledger.exists_wordTotal (by decide) hhope
  obtain ⟨discontent, dsum, dword, dlt⟩ := Ledger.exists_wordTotal (by decide) hdiscontent
  have hreads : g.ReadsTotal "esperanza_activa_total" g.totalActiveHope hope :=
    readsTotal_of_count (t := .totalActiveHope) (by decide +kernel) rfl hword hlt
  have dreads : g.ReadsTotal "descontento_activo_total" g.totalActiveDiscontent discontent :=
    readsTotal_of_count (t := .totalActiveDiscontent) (by decide +kernel) rfl dword dlt
  refine ⟨hope, discontent, hsum, dsum, g.totalActiveHope_eq_add, g.totalActiveDiscontent_eq_add,
    hreads, dreads, fun c custom hc => ?_⟩
  unfold Condition.outcome
  rw [hc, hreads.signed, dreads.signed]

/-- As much justice and anger as there can be, and one token more of care. -/
def crowded : GameState :=
  ((empty.setHope .justice ⟨4294967295, 7⟩).setHope .care ⟨1, 0⟩).setDiscontent .anger
    ⟨4294967295, 4294967295⟩

/-- There is one token more of hope than of discontent, but bodies are not repeated more often. -/
theorem totals_exact_crowded :
    ∃ hope discontent : UInt64,
      Ledger.wordTotal? [(HopeKind.care, ⟨1, 0⟩), (.justice, ⟨4294967295, 7⟩)] = some hope ∧
      Ledger.wordTotal? [(DiscontentKind.anger, ⟨4294967295, 4294967295⟩)] = some discontent ∧
      hope.toNat = 2 ^ 32 ∧ discontent.toNat = 2 ^ 32 - 1 ∧
      crowded.ReadsTotal "esperanza_activa_total" (2 ^ 32) hope ∧
      crowded.ReadsTotal "descontento_activo_total" (2 ^ 32 - 1) discontent ∧
      (Condition.hopeVsDiscontent .greaterThan "Más esperanza").outcome none crowded =
        .decided true := by
  have hhope : crowded.totalActiveHope = 2 ^ 32 := by decide +kernel
  have hdiscontent : crowded.totalActiveDiscontent = 2 ^ 32 - 1 := by decide +kernel
  have hentries : [(HopeKind.care, ⟨1, 0⟩), (.justice, ⟨4294967295, 7⟩)].Perm
      crowded.hopeTokens.entries := by decide +kernel
  have dentries : [(DiscontentKind.anger, ⟨4294967295, 4294967295⟩)].Perm
      crowded.discontentTokens.entries := by decide +kernel
  obtain ⟨hope, discontent, hsum, dsum, -, -, hreads, dreads, houtcome⟩ :=
    totals_exact crowded hentries dentries
  rw [hhope] at hreads
  rw [hdiscontent] at dreads
  refine ⟨hope, discontent, hsum, dsum, hreads.word, dreads.word, hreads, dreads, ?_⟩
  rw [houtcome _ none rfl, hreads.signed, dreads.signed]
  rfl

end GameState

end CityCards
