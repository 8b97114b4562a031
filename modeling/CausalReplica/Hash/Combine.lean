/-!
# Combining hashes

Three ways to fold two hash values into one: two unsigned or two signed 32-bit values through one
64-bit mixing permutation, and two 64-bit values through the CityHash reduction of 128 bits to 64.
-/

namespace CausalReplica.Hash

/-- A permutation of the 64-bit words built from shifts, a complement and small odd factors. -/
def mixPair (key : UInt64) : UInt64 :=
  let key := ~~~key + (key <<< 18)
  let key := key ^^^ (key >>> 31)
  let key := key * 21
  let key := key ^^^ (key >>> 11)
  let key := key + (key <<< 6)
  key ^^^ (key >>> 22)

/-- Combines two 32-bit hashes, the first as the high half of the key. -/
def combine32 (x y : UInt32) : UInt32 :=
  (mixPair ((x.toUInt64 <<< 32) ||| y.toUInt64)).toUInt32

/-- Combines two signed 32-bit hashes. Both are sign-extended first, so a negative second operand
fills the high half of the key with ones and hides the first. -/
def combineSigned32 (x y : Int32) : Int32 :=
  (mixPair ((x.toInt64.toUInt64 <<< 32) ||| y.toInt64.toUInt64)).toUInt32.toInt32

/-- The odd multiplier of `combine64`. -/
def multiplier : UInt64 := 0x9ddfea08eb382d69

def combine64 (x y : UInt64) : UInt64 :=
  let a := (y ^^^ x) * multiplier
  let a := a ^^^ (a >>> 47)
  let b := (x ^^^ a) * multiplier
  let b := b ^^^ (b >>> 47)
  b * multiplier

end CausalReplica.Hash
