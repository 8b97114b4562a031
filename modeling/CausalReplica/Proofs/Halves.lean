import CausalReplica.Proofs.Mixing
import Mathlib.SetTheory.Cardinal.Finite

/-!
# Two 32-bit hashes in one word

Two 32-bit hashes are combined by packing them into one word, mixing the word and keeping its lower
half. Packing loses nothing, and neither does mixing: its two sums with a shifted word are
multiplications by odd constants, one of them followed by a complement, and the other steps are
undone as in the combination of two words. So all that is lost is the upper half of the mixed word,
and since that half may be anything, every result has as many pairs as there are upper halves.

Signed hashes are extended to words before they are packed. An extension is a packing too, of
copies of the sign above the operand. Those above the first operand are shifted out. Those above the
second one stay and lie over the first operand: they change nothing if they are zeros, and hide it
if they are ones.
-/

namespace CausalReplica

namespace Hash

/-! ## The mixing of a word -/

theorem shiftLeft_eq_mul (w k : UInt64) : w <<< k = w * UInt64.ofNat (2 ^ (k.toNat % 64)) := by
  rw [← UInt64.toNat_inj, UInt64.toNat_shiftLeft, UInt64.toNat_mul, UInt64.toNat_ofNat',
    Nat.mul_mod_mod, Nat.shiftLeft_eq]

theorem add_shiftLeft (w : UInt64) : w + w <<< 6 = w * 65 := by
  have hshift : w <<< 6 = w * 64 := shiftLeft_eq_mul w 6
  have hfactor : (65 : UInt64) = 1 + 64 := by decide
  rw [hshift, hfactor, UInt64.mul_add, UInt64.mul_one]

/-- The constant is `1 - 2 ^ 18`. -/
theorem not_add_shiftLeft (w : UInt64) : ~~~w + w <<< 18 = ~~~(w * 0xfffffffffffc0001) := by
  have hshift : w <<< 18 = w * 0x40000 := shiftLeft_eq_mul w 18
  have hfactor : (0xfffffffffffc0001 : UInt64) = 1 - 0x40000 := by decide
  rw [hshift, hfactor, UInt64.mul_sub, UInt64.mul_one, UInt64.not_eq_neg_sub,
    UInt64.not_eq_neg_sub]
  grind

theorem mixPair_eq_comp : mixPair =
    xorHigh 22 ∘ (· * 65) ∘ xorHigh 11 ∘ (· * 21) ∘ xorHigh 31 ∘
      (fun w ↦ ~~~w) ∘ (· * 0xfffffffffffc0001) := by
  funext key
  simp only [mixPair, not_add_shiftLeft, add_shiftLeft, xorHigh, Function.comp_apply]

theorem mixPair_bijective : Function.Bijective mixPair := by
  have hhigh31 : Function.Bijective (xorHigh 31) := bijective_xorHigh (by decide)
  have hhigh11 : Function.Bijective (xorHigh 11) := bijective_xorHigh (by decide)
  have hhigh22 : Function.Bijective (xorHigh 22) := bijective_xorHigh (by decide)
  have hnot : Function.Bijective fun w : UInt64 ↦ ~~~w :=
    Function.Involutive.bijective fun _ ↦ UInt64.not_not
  -- A geometric series inverts `1 - 2 ^ 18`. It has four terms, as `2 ^ 72` is zero in a word.
  have hfirst : Function.Bijective fun w : UInt64 ↦ w * 0xfffffffffffc0001 :=
    bijective_mul (show 0xfffffffffffc0001 * (0x0040001000040001 : UInt64) = 1 by decide)
  have hmul21 : Function.Bijective fun w : UInt64 ↦ w * 21 :=
    bijective_mul (show 21 * (0xcf3cf3cf3cf3cf3d : UInt64) = 1 by decide)
  have hmul65 : Function.Bijective fun w : UInt64 ↦ w * 65 :=
    bijective_mul (show 65 * (0x0fc0fc0fc0fc0fc1 : UInt64) = 1 by decide)
  rw [mixPair_eq_comp]
  exact hhigh22.comp <| hmul65.comp <| hhigh11.comp <| hmul21.comp <| hhigh31.comp <|
    hnot.comp hfirst

/-! ## The halves of a word -/

/-- The word with the given upper and lower half. -/
def pack (upper lower : UInt32) : UInt64 := upper.toUInt64 <<< 32 ||| lower.toUInt64

/-- The upper half of a word. The lower one is `UInt64.toUInt32`. -/
def upperHalf (w : UInt64) : UInt32 := (w >>> 32).toUInt32

theorem toNat_pack (upper lower : UInt32) :
    (pack upper lower).toNat = upper.toNat * 2 ^ 32 + lower.toNat := by
  have hfits : upper.toNat <<< 32 < 2 ^ 64 := by
    have hupper := upper.toNat_lt
    rw [Nat.shiftLeft_eq]
    omega
  calc (pack upper lower).toNat = upper.toNat <<< 32 % 2 ^ 64 ||| lower.toNat := by
        rw [pack, UInt64.toNat_or, UInt64.toNat_shiftLeft]
        rfl
    _ = upper.toNat <<< 32 + lower.toNat := by
        rw [Nat.mod_eq_of_lt hfits, Nat.shiftLeft_add_eq_or_of_lt lower.toNat_lt]
    _ = upper.toNat * 2 ^ 32 + lower.toNat := by rw [Nat.shiftLeft_eq]

theorem toNat_upperHalf (w : UInt64) : (upperHalf w).toNat = w.toNat / 2 ^ 32 := by
  have hshift : (w >>> 32).toNat = w.toNat / 2 ^ 32 := by
    rw [UInt64.toNat_shiftRight, Nat.shiftRight_eq_div_pow]
    rfl
  have hw := w.toNat_lt
  rw [upperHalf, UInt64.toNat_toUInt32, hshift]
  omega

@[simp] theorem toUInt32_pack (upper lower : UInt32) : (pack upper lower).toUInt32 = lower := by
  have hlower := lower.toNat_lt
  rw [← UInt32.toNat_inj, UInt64.toNat_toUInt32, toNat_pack]
  omega

@[simp] theorem upperHalf_pack (upper lower : UInt32) : upperHalf (pack upper lower) = upper := by
  have hlower := lower.toNat_lt
  rw [← UInt32.toNat_inj, toNat_upperHalf, toNat_pack]
  omega

@[simp] theorem pack_halves (w : UInt64) : pack (upperHalf w) w.toUInt32 = w := by
  rw [← UInt64.toNat_inj, toNat_pack, toNat_upperHalf, UInt64.toNat_toUInt32]
  omega

/-- A word is the pair of its halves. -/
def halves : UInt64 ≃ UInt32 × UInt32 where
  toFun w := (upperHalf w, w.toUInt32)
  invFun p := pack p.1 p.2
  left_inv := pack_halves
  right_inv p := Prod.ext (upperHalf_pack p.1 p.2) (toUInt32_pack p.1 p.2)

theorem pack_or_pack (a b c d : UInt32) : pack a b ||| pack c d = pack (a ||| c) (b ||| d) := by
  have hswap : ∀ s t u v : UInt64, s ||| t ||| (u ||| v) = s ||| u ||| (t ||| v) := by
    intro s t u v
    ac_rfl
  rw [pack, pack, pack, hswap, UInt32.toUInt64_or, UInt32.toUInt64_or, UInt64.shiftLeft_or]

theorem shiftLeft_eq_pack (w : UInt64) : w <<< 32 = pack w.toUInt32 0 := by
  have hshift : (w <<< 32).toNat = w.toNat * 2 ^ 32 % 2 ^ 64 := by
    rw [UInt64.toNat_shiftLeft, Nat.shiftLeft_eq]
    rfl
  rw [← UInt64.toNat_inj, hshift, toNat_pack, UInt64.toNat_toUInt32, UInt32.toNat_zero]
  omega

/-! ## The pairs that are combined to one result -/

/-- Mixing as a permutation of pairs. It takes two operands to their combination and to the upper
half of the mixed word, which the combination leaves out. -/
noncomputable def mixHalves : UInt32 × UInt32 ≃ UInt32 × UInt32 :=
  ((halves.symm.trans (Equiv.ofBijective mixPair mixPair_bijective)).trans halves).trans
    (Equiv.prodComm _ _)

theorem fst_mixHalves (p : UInt32 × UInt32) : (mixHalves p).1 = combine32 p.1 p.2 := rfl

theorem card_combine32_eq (r : UInt32) :
    Nat.card {p : UInt32 × UInt32 // combine32 p.1 p.2 = r} = 2 ^ 32 := by
  have hresult : ∀ p : UInt32 × UInt32, combine32 p.1 p.2 = r ↔ (mixHalves p).1 = r := by
    intro p
    rw [fst_mixHalves]
  -- The permutation takes the pairs with this result to those with `r` in front.
  calc Nat.card {p : UInt32 × UInt32 // combine32 p.1 p.2 = r}
      = Nat.card {q : UInt32 × UInt32 // q.1 = r} :=
        Nat.card_congr (mixHalves.subtypeEquiv hresult)
    _ = Nat.card ({s // s = r} × UInt32) :=
        Nat.card_congr (Equiv.prodSubtypeFstEquivSubtypeProd (p := (· = r)))
    _ = Nat.card UInt32 := by rw [Nat.card_prod, Nat.card_unique, one_mul]
    _ = 2 ^ 32 := by
        rw [Nat.card_eq_fintype_card, ← FinEnum.card_eq_fintypeCard, FinEnum.card_UInt32]

/-! ## Signed operands -/

/-- What sign extension puts above an operand. -/
def signFill (x : Int32) : UInt32 := if x < 0 then 0xffffffff else 0

theorem toNat_signFill (x : Int32) : (signFill x).toNat = if x < 0 then 2 ^ 32 - 1 else 0 := by
  unfold signFill
  split <;> rfl

theorem msb_toBitVec_iff (x : Int32) : x.toBitVec.msb = true ↔ x < 0 := by
  rw [Int32.lt_iff_toBitVec_slt]
  exact BitVec.slt_zero_iff_msb_cond.symm

theorem toUInt64_toInt64 (x : Int32) : x.toInt64.toUInt64 = pack (signFill x) x.toUInt32 := by
  have hx := x.toUInt32.toNat_lt
  have hextended : x.toInt64.toUInt64.toNat =
      x.toUInt32.toNat + if x < 0 then 2 ^ 64 - 2 ^ 32 else 0 := by
    calc x.toInt64.toUInt64.toNat = (x.toBitVec.signExtend 64).toNat := rfl
      _ = x.toUInt32.toNat % 2 ^ 64 + if x.toBitVec.msb then 2 ^ 64 - 2 ^ 32 else 0 := by
          rw [BitVec.toNat_signExtend, BitVec.toNat_setWidth]
          rfl
      _ = x.toUInt32.toNat + if x < 0 then 2 ^ 64 - 2 ^ 32 else 0 := by
          rw [Nat.mod_eq_of_lt (by omega)]
          simp only [msb_toBitVec_iff]
  rw [← UInt64.toNat_inj, hextended, toNat_pack, toNat_signFill]
  split <;> omega

theorem or_signFill (u : UInt32) (y : Int32) :
    u ||| signFill y = if y < 0 then 0xffffffff else u := by
  unfold signFill
  split
  · exact UInt32.or_neg_one
  · exact UInt32.or_zero

theorem toUInt32_combineSigned32 (x y : Int32) :
    (combineSigned32 x y).toUInt32 =
      combine32 (if y < 0 then 0xffffffff else x.toUInt32) y.toUInt32 := by
  have hkey : x.toInt64.toUInt64 <<< 32 ||| y.toInt64.toUInt64 =
      pack (x.toUInt32 ||| signFill y) y.toUInt32 := by
    rw [shiftLeft_eq_pack, toUInt64_toInt64, toUInt64_toInt64, toUInt32_pack, pack_or_pack,
      UInt32.zero_or]
  rw [combineSigned32, hkey, UInt32.toUInt32_toInt32, or_signFill]
  rfl

/-- A negative second operand hides the first one. -/
example : combineSigned32 7 (-5) = combineSigned32 (-1) (-5) := by decide

/-- Mixing permutes the words, so every result of the unsigned combination has exactly `2 ^ 32`
pairs of operands. The signed combination has the same bits as the unsigned one if its second
operand is not negative. If it is negative, they are those for a first operand of ones, whatever the
first operand was. -/
theorem pairs_are_mixed_evenly :
    Function.Bijective mixPair ∧
    (∀ r, Nat.card {p : UInt32 × UInt32 // combine32 p.1 p.2 = r} = 2 ^ 32) ∧
    ∀ x y : Int32, (combineSigned32 x y).toUInt32 =
      combine32 (if y < 0 then 0xffffffff else x.toUInt32) y.toUInt32 :=
  ⟨mixPair_bijective, card_combine32_eq, toUInt32_combineSigned32⟩

end Hash

end CausalReplica
