import CausalReplica.Hash.Word

/-!
# Reading in chunks

A byte string is cut into chunks of one size from the front, and what is too short for one more
chunk remains. Whoever reads a chunk reads parts of it and single bytes by their positions. A
position behind the end has no byte; reading there gives nothing, and so does all that goes on from
it.
-/

namespace CausalReplica.Bytes

/-- The chunks of exactly `size` bytes, and what remains behind them. -/
def chunksExact (size : Nat) (bytes : Bytes) : List Bytes × Bytes :=
  if 0 < size ∧ size ≤ bytes.length then
    let rest := chunksExact size (bytes.drop size)
    (bytes.take size :: rest.1, rest.2)
  else ([], bytes)
termination_by bytes.length
decreasing_by rw [List.length_drop]; omega

/-- The bytes from position `start` up to position `stop`. -/
def slice? (bytes : Bytes) (start stop : Nat) : Option Bytes :=
  if start ≤ stop ∧ stop ≤ bytes.length then some ((bytes.take stop).drop start) else none

/-- The 32-bit word of the bytes at positions 0 to 3. -/
def readWord32? (bytes : Bytes) : Option UInt32 := do
  let word ← (List.range 4).mapM fun i ↦ bytes[i]?
  return UInt32.ofNat (toNatLE word)

/-- The 64-bit word of the bytes at positions 0 to 7. -/
def readWord64? (bytes : Bytes) : Option UInt64 := do
  let word ← (List.range 8).mapM fun i ↦ bytes[i]?
  return UInt64.ofNat (toNatLE word)

/-- The 32-bit word at the front of a slice. -/
def sliceWord32? (bytes : Bytes) (start stop : Nat) : Option UInt32 := do
  readWord32? (← slice? bytes start stop)

/-- The 64-bit word at the front of a slice. -/
def sliceWord64? (bytes : Bytes) (start stop : Nat) : Option UInt64 := do
  readWord64? (← slice? bytes start stop)

end CausalReplica.Bytes
