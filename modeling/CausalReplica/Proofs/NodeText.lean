import CausalReplica.Node
import Mathlib.Data.List.Basic
import Mathlib.Tactic.IntervalCases
import Mathlib.Tactic.Ring

/-!
# The text of a node names the node

A node is written as the thirty-two digits of its sixteen bytes, in five groups. Reading takes the
hyphens out, and the number that the digits spell is the number of the node. So no two nodes have
one text.

The digits of a byte string spell the bytes as one number, the first byte the most significant. The
induction goes over the bytes from the front, so the number of the bytes before them is carried
along: every byte moves it up by two digits.
-/

namespace CausalReplica

/-! ## Digits -/

namespace Hex

theorem value?_digit {n : ℕ} (h : n < 16) : value? (digit n) = some n := by
  interval_cases n <;> rfl

theorem digit_ne_hyphen {n : ℕ} (h : n < 16) : digit n ≠ '-' := by
  interval_cases n <;> decide

theorem length_encode (bytes : Bytes) : (encode bytes).length = 2 * bytes.length := by
  induction bytes with
  | nil => rfl
  | cons b bytes ih =>
    rw [encode, List.flatMap_cons, List.length_append, ← encode, ih, byte, List.length_cons]
    simp only [List.length_cons, List.length_nil]
    ring

theorem exists_digit_of_mem_encode {c : Char} {bytes : Bytes} (h : c ∈ encode bytes) :
    ∃ n < 16, c = digit n := by
  obtain ⟨b, -, hb⟩ := List.mem_flatMap.1 h
  have hsize : b.toNat < 256 := b.toNat_lt
  rcases List.mem_pair.1 hb with hb | hb
  · exact ⟨b.toNat / 16, by omega, hb⟩
  · exact ⟨b.toNat % 16, by omega, hb⟩

theorem hyphen_notMem_encode (bytes : Bytes) : '-' ∉ encode bytes := by
  intro h
  obtain ⟨n, hn, hdigit⟩ := exists_digit_of_mem_encode h
  exact digit_ne_hyphen hn hdigit.symm

end Hex

theorem Bytes.toNatLE_concat (bytes : Bytes) (b : UInt8) :
    toNatLE (bytes ++ [b]) = toNatLE bytes + 256 ^ bytes.length * b.toNat := by
  induction bytes with
  | nil => simp
  | cons a bytes ih =>
    rw [List.cons_append, toNatLE_cons, ih, toNatLE_cons, List.length_cons]
    ring

namespace Hex

/-- The digits of `bytes` move a number up by two places for every byte, and add the bytes. -/
theorem foldl_encode (bytes : Bytes) (n : ℕ) :
    (encode bytes).foldl (fun n c ↦ n.bind fun n ↦ (value? c).map (16 * n + ·)) (some n) =
      some (n * 256 ^ bytes.length + Bytes.toNatLE bytes.reverse) := by
  induction bytes generalizing n with
  | nil => simp [encode]
  | cons b bytes ih =>
    have hsize : b.toNat < 256 := b.toNat_lt
    have high : value? (digit (b.toNat / 16)) = some (b.toNat / 16) := value?_digit (by omega)
    have low : value? (digit (b.toNat % 16)) = some (b.toNat % 16) := value?_digit (by omega)
    have hbyte : 16 * (16 * n + b.toNat / 16) + b.toNat % 16 = 256 * n + b.toNat := by omega
    rw [encode, List.flatMap_cons, List.foldl_append, ← encode, byte, List.foldl_cons,
      List.foldl_cons, List.foldl_nil, Option.bind_some, high, Option.map_some, Option.bind_some,
      low, Option.map_some, hbyte, ih, List.reverse_cons, Bytes.toNatLE_concat,
      List.length_reverse, List.length_cons]
    ring_nf

theorem number?_encode {bytes : Bytes} (h : bytes ≠ []) :
    number? (encode bytes) = some (Bytes.toNatLE bytes.reverse) := by
  have hne : (encode bytes).isEmpty = false := by
    obtain ⟨b, rest, rfl⟩ := List.exists_cons_of_ne_nil h
    rfl
  rw [number?, hne, if_neg (by simp), foldl_encode, Nat.zero_mul, Nat.zero_add]

end Hex

/-! ## Nodes -/

namespace NodeId

theorem filter_grouped {digits : List Char} (h : '-' ∉ digits) :
    (grouped digits).filter (· != '-') = digits := by
  have skip : ∀ cs : List Char, ('-' :: cs).filter (· != '-') = cs.filter (· != '-') :=
    fun cs ↦ List.filter_cons_of_neg (by simp)
  have join : ∀ m n, (digits.drop m).take n ++ digits.drop (m + n) = digits.drop m := by
    intro m n
    rw [← List.drop_drop, List.take_append_drop]
  have groups : digits.take 8 ++ ((digits.drop 8).take 4 ++ ((digits.drop 12).take 4 ++
      ((digits.drop 16).take 4 ++ digits.drop 20))) = digits := by
    rw [join 16 4, join 12 4, join 8 4, List.take_append_drop]
  have keep : digits.filter (· != '-') = digits := by
    rw [List.filter_eq_self]
    intro c hc
    rw [bne_iff_ne]
    rintro rfl
    exact h hc
  rw [grouped]
  simp only [List.append_assoc, List.cons_append, List.filter_append, skip]
  simp only [← List.filter_append]
  rw [groups, keep]

theorem length_grouped {digits : List Char} (h : digits.length = 32) :
    (grouped digits).length = 36 := by
  simp only [grouped, List.length_append, List.length_cons, List.length_take, List.length_drop, h]
  rfl

theorem ungrouped_grouped {digits : List Char} (h : '-' ∉ digits) :
    ungrouped (grouped digits) = some digits := by
  simp only [ungrouped, filter_grouped h, if_true]

theorem toNatLE_bytes (n : NodeId) : Bytes.toNatLE n.bytes.reverse = n.toNat := by
  rw [bytes, List.reverse_reverse, Bytes.toNatLE_ofNatLE, Nat.pow_eq]
  exact Nat.mod_eq_of_lt n.bits.isLt

theorem parse?_text (n : NodeId) : parse? n.text = some n := by
  have hlength : n.bytes.length = 16 := by
    rw [bytes, List.length_reverse, Bytes.length_ofNatLE]
  have hdigits : (Hex.encode n.bytes).length = 32 := by rw [Hex.length_encode, hlength]
  have hne : n.bytes ≠ [] := List.ne_nil_of_length_eq_add_one hlength
  have hnumber : ofDigits (Hex.encode n.bytes) = some n := by
    rw [ofDigits, if_pos hdigits, Hex.number?_encode hne, toNatLE_bytes, Option.map_some, toNat,
      BitVec.ofNat_toNat, BitVec.setWidth_eq]
  rw [parse?, text, String.toList_ofList]
  simp only [length_grouped hdigits, ungrouped_grouped (Hex.hyphen_notMem_encode _),
    Option.bind_some, hnumber]

end NodeId

end CausalReplica
