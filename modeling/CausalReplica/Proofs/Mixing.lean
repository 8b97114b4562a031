import CausalReplica.Hash.Combine
import CausalReplica.VersionVector.Encoding
import Mathlib.Data.FinEnum
import Mathlib.Data.UInt

/-!
# What combining two hashes keeps

Combining takes two words to one, so it must lose something. With the first word held fixed it loses
nothing: the second one goes through xors with fixed words, multiplications by one odd constant and
xors with the word's own high bits, and each of these can be undone. The constant has an inverse
modulo `2 ^ 64`. A word `d` that is equal to its own shift to the right is at most `d / 2`, hence
zero; and shifting goes along with xor, so two words that agree after the third kind of step differ
by such a `d`.

The fingerprint of a vector is the second word wherever fingerprints are folded together. So a seed
hides no difference between two of them.
-/

namespace CausalReplica

namespace Hash

/-! ## Steps that can be undone -/

theorem bijective_mul {factor inverse : UInt64} (h : factor * inverse = 1) :
    Function.Bijective (· * factor) := by
  rw [← Finite.injective_iff_bijective]
  intro a b hab
  have hcancel : ∀ w : UInt64, w * factor * inverse = w := fun w ↦ by
    rw [UInt64.mul_assoc, h, UInt64.mul_one]
  calc a = a * factor * inverse := (hcancel a).symm
    _ = b * factor * inverse := congrArg (· * inverse) hab
    _ = b := hcancel b

theorem bijective_xor (mask : UInt64) : Function.Bijective (mask ^^^ ·) := by
  rw [← Finite.injective_iff_bijective]
  intro a b hab
  exact (UInt64.xor_right_inj mask).1 hab

theorem eq_zero_of_shiftRight_eq {d k : UInt64} (hk : k.toNat % 64 ≠ 0) (h : d >>> k = d) :
    d = 0 := by
  have hdiv : d.toNat / 2 ^ (k.toNat % 64) = d.toNat := by
    rw [← Nat.shiftRight_eq_div_pow, ← UInt64.toNat_shiftRight, h]
  have hpow : 1 < 2 ^ (k.toNat % 64) := Nat.one_lt_two_pow hk
  rw [← UInt64.toNat_inj, UInt64.toNat_zero]
  by_contra hd
  exact (Nat.div_lt_self (Nat.pos_of_ne_zero hd) hpow).ne hdiv

/-- A word xored with its own bits from position `k` on. -/
def xorHigh (k w : UInt64) : UInt64 := w ^^^ w >>> k

theorem bijective_xorHigh {k : UInt64} (hk : k.toNat % 64 ≠ 0) :
    Function.Bijective (xorHigh k) := by
  rw [← Finite.injective_iff_bijective]
  intro a b hab
  rw [xorHigh, xorHigh] at hab
  have hshift : (a ^^^ b) >>> k = a ^^^ b := by
    rw [UInt64.shiftRight_xor, ← UInt64.xor_eq_zero_iff]
    calc a >>> k ^^^ b >>> k ^^^ (a ^^^ b) = a ^^^ a >>> k ^^^ (b ^^^ b >>> k) := by ac_rfl
      _ = 0 := UInt64.xor_eq_zero_iff.2 hab
  exact UInt64.xor_eq_zero_iff.1 (eq_zero_of_shiftRight_eq hk hshift)

/-! ## The combination of two words -/

/-- The inverse of the multiplier modulo `2 ^ 64`. -/
def multiplierInverse : UInt64 := 0xdc56e6f5090b32d9

theorem multiplier_mul_inverse : multiplier * multiplierInverse = 1 := by decide

theorem combine64_eq_comp (x : UInt64) : combine64 x =
    (· * multiplier) ∘ xorHigh 47 ∘ (· * multiplier) ∘ (x ^^^ ·) ∘ xorHigh 47 ∘
      (· * multiplier) ∘ (x ^^^ ·) := by
  funext y
  simp only [combine64, UInt64.xor_comm y x, xorHigh, Function.comp_apply]

theorem combine64_bijective (x : UInt64) : Function.Bijective (combine64 x) := by
  have hmul : Function.Bijective (· * multiplier) := bijective_mul multiplier_mul_inverse
  have hhigh : Function.Bijective (xorHigh 47) := bijective_xorHigh (by decide)
  have hxor : Function.Bijective (x ^^^ ·) := bijective_xor x
  rw [combine64_eq_comp]
  exact hmul.comp <| hhigh.comp <| hmul.comp <| hxor.comp <| hhigh.comp <| hmul.comp hxor

end Hash

/-- With its first operand held fixed, the combination of two words permutes the words. So a seed
keeps fingerprints apart: under it two vectors have one fingerprint exactly if they have one without
it. -/
theorem seeds_keep_fingerprints_apart :
    (∀ x, Function.Bijective (Hash.combine64 x)) ∧
    ∀ (seed : UInt64) (v w : VersionVector),
      v.fingerprintWith seed = w.fingerprintWith seed ↔ v.fingerprint = w.fingerprint := by
  constructor
  · exact Hash.combine64_bijective
  · intro seed v w
    exact (Hash.combine64_bijective seed).injective.eq_iff

end CausalReplica
