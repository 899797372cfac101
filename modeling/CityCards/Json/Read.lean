import CityCards.Json.ReadError

/-!
# Reading scalars, lists and options

Readers for the values that records are made of. A reader takes a JSON value and returns what it
stands for, or the fault that keeps it from being read.

Results:
* `readItems_map`: a list that was written item by item is read back.
* `readUInt32_toNat`, `readUInt64_toNat`, `readUInt128_toNat`, `readInt64_toInt`: an integer of the
  right size is read as itself.
-/

namespace CityCards.Json

/-- A string. -/
def readString : Json → Except ReadError String
  | .str s => .ok s
  | j => .error (.invalidType j .string)

/-- A boolean. -/
def readBool : Json → Except ReadError Bool
  | .bool b => .ok b
  | j => .error (.invalidType j .boolean)

/-- An integer of the named kind between the two bounds. -/
def readInteger (kind : String) (least greatest : Int) : Json → Except ReadError Int
  | .int n =>
    if least ≤ n && n ≤ greatest then .ok n
    else .error (.invalidValue (.int n) (.integer kind))
  | j => .error (.invalidType j (.integer kind))

/-- An unsigned integer of 32 bits. -/
def readUInt32 (j : Json) : Except ReadError UInt32 :=
  (readInteger "u32" 0 (2 ^ 32 - 1) j).map fun n => UInt32.ofNat n.toNat

/-- An unsigned integer of 64 bits. -/
def readUInt64 (j : Json) : Except ReadError UInt64 :=
  (readInteger "u64" 0 (2 ^ 64 - 1) j).map fun n => UInt64.ofNat n.toNat

/-- An unsigned integer of 128 bits. -/
def readUInt128 (j : Json) : Except ReadError (BitVec 128) :=
  (readInteger "u128" 0 (2 ^ 128 - 1) j).map fun n => BitVec.ofNat 128 n.toNat

/-- A signed integer of 64 bits. -/
def readInt64 (j : Json) : Except ReadError Int64 :=
  (readInteger "i64" (-2 ^ 63) (2 ^ 63 - 1) j).map Int64.ofInt

/-- A value that may be `null`. -/
def readOption {α : Type} (read : Json → Except ReadError α) : Json → Except ReadError (Option α)
  | .null => .ok none
  | j => (read j).map some

/-- The items of a list, read one after the other; the first fault is the one reported. -/
def readItems {α : Type} (read : Json → Except ReadError α) :
    List Json → Except ReadError (List α)
  | [] => .ok []
  | j :: rest =>
    match read j with
    | .error e => .error e
    | .ok a => (readItems read rest).map (a :: ·)

/-- An array whose items can all be read. -/
def readList {α : Type} (read : Json → Except ReadError α) : Json → Except ReadError (List α)
  | .arr items => readItems read items
  | j => .error (.invalidType j .sequence)

/-- One of several names, as a string or as the only member of an object with the value `null`. -/
def readName (names : List String) : Json → Except ReadError String
  | .str s => if s ∈ names then .ok s else .error (.unknownName s names)
  | .obj [(s, j)] =>
    if s ∈ names then
      match j with
      | .null => .ok s
      | j => .error (.invalidType j .unit)
    else .error (.unknownName s names)
  | .obj members => .error (.invalidValue (.obj members) .singleKeyMap)
  | j => .error (.invalidType j .stringOrMap)

theorem readItems_map {α : Type} {read : Json → Except ReadError α} {write : α → Json}
    {as : List α} (h : ∀ a ∈ as, read (write a) = .ok a) :
    readItems read (as.map write) = .ok as := by
  induction as with
  | nil => rfl
  | cons a rest ih =>
    have ha := h a (by simp)
    have hr := ih fun b hb => h b (by simp [hb])
    simp [readItems, ha, hr, Except.map]

/-! ## Integers that fit -/

theorem readInteger_of_mem {kind : String} {least greatest n : Int} (h : least ≤ n)
    (h' : n ≤ greatest) : readInteger kind least greatest (.int n) = .ok n := by
  simp [readInteger, h, h']

theorem readUInt32_toNat (n : UInt32) : readUInt32 (.int n.toNat) = .ok n := by
  have := n.toNat_lt
  rw [readUInt32, readInteger_of_mem (by omega) (by omega)]
  simp [Except.map]

theorem readUInt64_toNat (n : UInt64) : readUInt64 (.int n.toNat) = .ok n := by
  have := n.toNat_lt
  rw [readUInt64, readInteger_of_mem (by omega) (by omega)]
  simp [Except.map]

theorem readUInt128_toNat (n : BitVec 128) : readUInt128 (.int n.toNat) = .ok n := by
  have := n.isLt
  rw [readUInt128, readInteger_of_mem (by omega) (by omega)]
  simp [Except.map]

theorem readInt64_toInt (n : Int64) : readInt64 (.int n.toInt) = .ok n := by
  have := Int64.le_toInt n
  have := Int64.toInt_lt n
  rw [readInt64, readInteger_of_mem (by omega) (by omega)]
  simp [Except.map]

end CityCards.Json
