/-!
# Bytes and little-endian words

A byte string is a `List UInt8`. A word is read from a byte string with the first byte as its lowest
eight bits, and written back the same way. Both hash functions of this library read their input
through these definitions, and change vectors write their counters with them.
-/

namespace CausalReplica

abbrev Bytes := List UInt8

namespace Bytes

/-- The number whose base-256 digits, lowest first, are the given bytes. -/
def toNatLE (bytes : Bytes) : Nat :=
  bytes.foldr (fun b n ↦ b.toNat + 256 * n) 0

/-- The lowest `width` base-256 digits of `n`, lowest first. -/
def ofNatLE : (width : Nat) → (n : Nat) → Bytes
  | 0, _ => []
  | width + 1, n => UInt8.ofNat n :: ofNatLE width (n / 256)

/-- The 32-bit word at the front of a byte string; missing bytes count as zero. -/
def word32 (bytes : Bytes) : UInt32 := UInt32.ofNat (toNatLE (bytes.take 4))

/-- The 64-bit word at the front of a byte string; missing bytes count as zero. -/
def word64 (bytes : Bytes) : UInt64 := UInt64.ofNat (toNatLE (bytes.take 8))

@[simp] theorem toNatLE_nil : toNatLE [] = 0 := rfl

@[simp] theorem toNatLE_cons (b : UInt8) (bytes : Bytes) :
    toNatLE (b :: bytes) = b.toNat + 256 * toNatLE bytes := rfl

@[simp] theorem length_ofNatLE (width n : Nat) : (ofNatLE width n).length = width := by
  induction width generalizing n with
  | zero => rfl
  | succ width ih => simp [ofNatLE, ih]

/-- Writing and reading back keeps what fits. -/
theorem toNatLE_ofNatLE (width n : Nat) : toNatLE (ofNatLE width n) = n % Nat.pow 256 width := by
  induction width generalizing n with
  | zero => simp [ofNatLE, Nat.mod_one]
  | succ width ih =>
    have hb : (UInt8.ofNat n).toNat = n % 256 := UInt8.toNat_ofNat'
    rw [ofNatLE, toNatLE_cons, ih, hb, Nat.pow_eq, Nat.pow_eq, Nat.pow_succ', Nat.mod_mul]

end Bytes

end CausalReplica
