import CityCards.Json.Outline
import CityCards.Json.Record

/-!
# How trees are resolved

The settings of a resolution, and how they are written as JSON and read back.

Results:
* `ResolverConfig.allowsDepth_zero`: the root is within every limit.
* `ResolverConfig.ofJson_toJson`: settings are read back.
-/

namespace CityCards

/-- Model of `ResolverConfig`. The settings of a resolution. -/
structure ResolverConfig where
  /-- Anomalies end the resolution and are not only noted. -/
  strict : Bool
  /-- How deep nodes may be nested; zero sets no limit. -/
  maxDepth : UInt32
  deriving DecidableEq, Repr

namespace ResolverConfig

/-- Model of `default`: anomalies are noted, and there is no limit of depth. -/
def default : ResolverConfig := ⟨false, 0⟩

/-- Model of `strict`: anomalies end the resolution, and there is no limit of depth. -/
def strictly : ResolverConfig := { default with strict := true }

/-- Model of `allows_depth`. A node at that depth is within the limit. -/
def allowsDepth (c : ResolverConfig) (depth : Nat) : Bool :=
  c.maxDepth = 0 || depth ≤ c.maxDepth.toNat

theorem allowsDepth_zero (c : ResolverConfig) : c.allowsDepth 0 = true := by
  simp [allowsDepth]

/-! ## JSON -/

/-- The fields of the settings. -/
def layout : RecordLayout := ⟨"ResolverConfig", 2⟩

/-- Settings as JSON. -/
def toJson (c : ResolverConfig) : Json :=
  .obj [("max_depth", .int c.maxDepth.toNat), ("strict", .bool c.strict)]

/-- Settings from the parts of a record. -/
def ofRecord (r : Record Json) : Ranked ResolverConfig :=
  ResolverConfig.mk <$> r.field layout 0 ["strict"] (some default.strict) Json.readBool
    <*> r.field layout 1 ["max_depth"] (some default.maxDepth) Json.readUInt32
    <* r.closed layout

/-- Settings from JSON. -/
def ofJson (j : Json) : Except ReadError ResolverConfig := Record.read layout ofRecord j

/-- Settings in a text. -/
def outline : Json.Outline :=
  .record [(["strict"], false, .boolean), (["max_depth"], false, .integer 0 (2 ^ 32 - 1))]

theorem ofJson_toJson (c : ResolverConfig) : ofJson c.toJson = .ok c := by
  rw [ofJson, toJson, Record.read_obj_eq_ok_iff]
  simp [ofRecord, Record.field, Record.occurrences, Record.closed, Ranked.ofExcept,
    Json.readUInt32_toNat, Json.readBool]
  rfl

end ResolverConfig

end CityCards
