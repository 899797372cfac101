/-!
# The keystream

An endless supply of 32-bit words for every seed, word by word accessible at its position. The
words come in blocks of sixteen: each block is the image of a key, which the seed is spread to, and
of the number of the block under eight rounds of mixing.

Main definitions:
* `Words`: words by their positions.
* `keystream`: the words of a seed.
-/

namespace CityCards

/-- The place of a word in a keystream: the number of its block, and its place in the block. -/
abbrev Position := BitVec 68

/-- Words by their positions. -/
abbrev Words := Position → UInt32

/-- The word rotated to the left. -/
def rotateLeft (x r : UInt32) : UInt32 := (x <<< r) ||| (x >>> (32 - r))

/-! ## The key of a seed -/

/-- One step of the generator that spreads a seed. -/
def spreadStep (s : UInt64) : UInt64 := s * 6364136223846793005 + 11634580027462260723

/-- The word that a state of this generator yields: some of its bits, rotated by the rest. -/
def spreadWord (s : UInt64) : UInt32 :=
  let x := (((s >>> 18) ^^^ s) >>> 27).toUInt32
  let r := (s >>> 59).toUInt32
  (x >>> r) ||| (x <<< (32 - r))

/-- The next words of the generator. -/
def spread : (count : Nat) → UInt64 → List UInt32
  | 0, _ => []
  | count + 1, s => spreadWord (spreadStep s) :: spread count (spreadStep s)

theorem length_spread (count : Nat) (s : UInt64) : (spread count s).length = count := by
  induction count generalizing s with
  | zero => rfl
  | succ n ih => simp [spread, ih]

/-- The eight words of the key of a seed. -/
def keyOf (seed : UInt64) : Vector UInt32 8 := ⟨(spread 8 seed).toArray, by simp [length_spread]⟩

/-! ## Blocks -/

/-- Sixteen words. -/
abbrev Block := Vector UInt32 16

/-- Mixes four words of a block. -/
def quarterRound (v : Block) (a b c d : Fin 16) : Block :=
  let v := v.set a (v[a] + v[b])
  let v := v.set d (rotateLeft (v[d] ^^^ v[a]) 16)
  let v := v.set c (v[c] + v[d])
  let v := v.set b (rotateLeft (v[b] ^^^ v[c]) 12)
  let v := v.set a (v[a] + v[b])
  let v := v.set d (rotateLeft (v[d] ^^^ v[a]) 8)
  let v := v.set c (v[c] + v[d])
  v.set b (rotateLeft (v[b] ^^^ v[c]) 7)

/-- Mixes the four columns of a block, and then its four diagonals. -/
def doubleRound (v : Block) : Block :=
  let v := quarterRound v 0 4 8 12
  let v := quarterRound v 1 5 9 13
  let v := quarterRound v 2 6 10 14
  let v := quarterRound v 3 7 11 15
  let v := quarterRound v 0 5 10 15
  let v := quarterRound v 1 6 11 12
  let v := quarterRound v 2 7 8 13
  quarterRound v 3 4 9 14

/-- The block before it is mixed: four constants, the key, the number of the block, and zeros. -/
def initialBlock (key : Vector UInt32 8) (number : UInt64) : Block :=
  #v[0x61707865, 0x3320646e, 0x79622d32, 0x6b206574,
    key[0], key[1], key[2], key[3], key[4], key[5], key[6], key[7],
    number.toUInt32, (number >>> 32).toUInt32, 0, 0]

/-- The block of that number: the mixed words plus the words before the mixing. -/
def blockOf (key : Vector UInt32 8) (number : UInt64) : Block :=
  let v := initialBlock key number
  (doubleRound (doubleRound (doubleRound (doubleRound v)))).zipWith (· + ·) v

/-- The words of a seed. -/
def keystream (seed : UInt64) : Words :=
  let key := keyOf seed
  fun p =>
    (blockOf key (UInt64.ofNat (p.toNat / 16))).get ⟨p.toNat % 16, Nat.mod_lt _ (by decide)⟩

end CityCards
