import CausalReplica.Hash.Chunks
import Mathlib.Algebra.BigOperators.Ring.List
import Mathlib.Data.List.GetD
import Mathlib.Tactic.Ring

/-!
# Where the chunks of a byte string stand

Chunks are cut off one by one, but each of them can be told by its position: chunk `i` is what
stands from position `size * i` on, and what remains begins behind the last whole chunk. Reading a
part of a chunk or one of its bytes gives a value because every chunk has its full size.
-/

namespace CausalReplica.Bytes

variable {size : ℕ} {bytes : Bytes}

/-! ## Cutting off -/

theorem chunksExact_of_length_lt (h : bytes.length < size) :
    chunksExact size bytes = ([], bytes) := by
  rw [chunksExact, if_neg]
  omega

theorem chunksExact_of_size_le (hsize : 0 < size) (h : size ≤ bytes.length) :
    chunksExact size bytes = (bytes.take size :: (chunksExact size (bytes.drop size)).1,
      (chunksExact size (bytes.drop size)).2) := by
  rw [chunksExact, if_pos ⟨hsize, h⟩]

theorem chunksExact_append {chunk : Bytes} (hsize : 0 < size) (h : chunk.length = size)
    (rest : Bytes) : chunksExact size (chunk ++ rest) =
      (chunk :: (chunksExact size rest).1, (chunksExact size rest).2) := by
  have hle : size ≤ (chunk ++ rest).length := by
    rw [List.length_append, h]
    exact Nat.le_add_right _ _
  rw [chunksExact_of_size_le hsize hle, List.take_left' h, List.drop_left' h]

theorem length_of_mem_chunks {chunk : Bytes} (h : chunk ∈ (chunksExact size bytes).1) :
    chunk.length = size := by
  fun_induction chunksExact size bytes with
  | case1 bytes hle rest ih =>
    rcases List.mem_cons.1 h with rfl | h
    · exact List.length_take_of_le hle.2
    · exact ih h
  | case2 => exact absurd h List.not_mem_nil

theorem flatten_chunks (size : ℕ) (bytes : Bytes) :
    (chunksExact size bytes).1.flatten ++ (chunksExact size bytes).2 = bytes := by
  fun_induction chunksExact size bytes with
  | case1 bytes hle rest ih =>
    rw [List.flatten_cons, List.append_assoc, ih, List.take_append_drop]
  | case2 => rfl

/-! ## Positions -/

theorem chunksExact_eq (hsize : 0 < size) (bytes : Bytes) : chunksExact size bytes =
    ((List.range (bytes.length / size)).map fun i ↦ (bytes.drop (size * i)).take size,
      bytes.drop (bytes.length / size * size)) := by
  fun_induction chunksExact size bytes with
  | case1 bytes hle rest ih =>
    have hdiv : bytes.length / size = (bytes.drop size).length / size + 1 := by
      rw [List.length_drop]
      exact Nat.div_eq_sub_div hsize hle.2
    have hnext : ∀ i, size + size * i = size * (i + 1) := fun i ↦ by
      rw [Nat.mul_succ, Nat.add_comm]
    rw [hdiv, List.range_succ_eq_map, List.map_cons, List.map_map, Nat.succ_mul,
      Nat.add_comm _ size, ← List.drop_drop]
    simp only [ih, rest, List.drop_drop, hnext]
    rfl
  | case2 bytes hle =>
    have hdiv : bytes.length / size = 0 := Nat.div_eq_of_lt (by omega)
    rw [hdiv, List.range_zero, List.map_nil, Nat.zero_mul, List.drop_zero]

section Fold

variable {σ : Type}

theorem foldlM_eq_some {ι : Type} {step? : σ → ι → Option σ} {step : σ → ι → σ} {is : List ι}
    (h : ∀ s, ∀ i ∈ is, step? s i = some (step s i)) (s : σ) :
    is.foldlM step? s = some (is.foldl step s) := by
  induction is generalizing s with
  | nil => rfl
  | cons i is ih =>
    rw [List.foldlM_cons, h s i List.mem_cons_self, List.foldl_cons]
    exact ih (fun s j hj ↦ h s j (List.mem_cons_of_mem i hj)) _

/-- A loop over chunks takes one step at the position of each. -/
theorem foldlM_chunks {step? : σ → Bytes → Option σ} {step : σ → Bytes → σ} (hsize : 0 < size)
    (h : ∀ s bytes, size ≤ bytes.length → step? s (bytes.take size) = some (step s bytes))
    (bytes : Bytes) (s : σ) :
    (chunksExact size bytes).1.foldlM step? s = some
      ((List.range (bytes.length / size)).foldl (fun s i ↦ step s (bytes.drop (size * i))) s) := by
  rw [chunksExact_eq hsize, List.foldlM_map]
  refine foldlM_eq_some (fun s i hi ↦ h s _ ?_) s
  have hlast : size * (i + 1) ≤ bytes.length :=
    (Nat.mul_le_mul_left size (List.mem_range.1 hi)).trans (Nat.mul_div_le _ _)
  rw [List.length_drop]
  rw [Nat.mul_succ] at hlast
  omega

/-- A loop that cuts its bytes off takes one step at the position of each cut. -/
theorem eq_foldl_range {loop : ℕ → σ → Bytes → σ} {step : σ → Bytes → σ}
    (zero : ∀ s bytes, loop 0 s bytes = s)
    (succ : ∀ n s bytes, loop (n + 1) s bytes = loop n (step s bytes) (bytes.drop size))
    (n : ℕ) (s : σ) (bytes : Bytes) :
    loop n s bytes = (List.range n).foldl (fun s i ↦ step s (bytes.drop (size * i))) s := by
  induction n generalizing s bytes with
  | zero => exact zero s bytes
  | succ n ih =>
    have hnext : ∀ i, size + size * i = size * (i + 1) := fun i ↦ by
      rw [Nat.mul_succ, Nat.add_comm]
    rw [succ, ih, List.range_succ_eq_map, List.foldl_cons, List.foldl_map, Nat.mul_zero,
      List.drop_zero]
    simp only [List.drop_drop, hnext]

theorem foldl_eq_foldl_range (step : σ → UInt8 → σ) (bytes : Bytes) (s : σ) :
    bytes.foldl step s =
      (List.range bytes.length).foldl (fun s j ↦ step s (bytes.getD j 0)) s := by
  have hbytes : (List.range bytes.length).map (bytes.getD · 0) = bytes := by
    refine List.ext_getElem (by rw [List.length_map, List.length_range]) fun j _ hj ↦ ?_
    rw [List.getElem_map, List.getElem_range, List.getD_eq_getElem _ _ hj]
  conv_lhs => rw [← hbytes]
  exact List.foldl_map

end Fold

/-! ## Reading -/

theorem toNatLE_lt (bytes : Bytes) : toNatLE bytes < 256 ^ bytes.length := by
  induction bytes with
  | nil => exact Nat.one_pos
  | cons b bytes ih =>
    have hb : b.toNat < 256 := b.toNat_lt
    rw [toNatLE_cons, List.length_cons, Nat.pow_succ]
    omega

theorem mapM_range_getElem? {n : ℕ} (h : n ≤ bytes.length) :
    (List.range n).mapM (fun i ↦ bytes[i]?) = some (bytes.take n) := by
  induction n with
  | zero => rfl
  | succ n ih =>
    rw [List.range_succ, List.mapM_append, ih (Nat.le_of_succ_le h), List.mapM_cons, List.mapM_nil,
      List.getElem?_eq_getElem h, ← List.take_append_getElem h]
    rfl

theorem readWord32?_of_le (h : 4 ≤ bytes.length) : readWord32? bytes = some (word32 bytes) := by
  rw [readWord32?, mapM_range_getElem? h]
  rfl

theorem readWord64?_of_le (h : 8 ≤ bytes.length) : readWord64? bytes = some (word64 bytes) := by
  rw [readWord64?, mapM_range_getElem? h]
  rfl

theorem slice?_of_le {start stop : ℕ} (h : start ≤ stop) (hstop : stop ≤ bytes.length) :
    slice? bytes start stop = some ((bytes.drop start).take (stop - start)) := by
  rw [slice?, if_pos ⟨h, hstop⟩, List.drop_take]

theorem word32_take {n : ℕ} (h : 4 ≤ n) : word32 (bytes.take n) = word32 bytes := by
  rw [word32, word32, List.take_take, Nat.min_eq_left h]

theorem word64_take {n : ℕ} (h : 8 ≤ n) : word64 (bytes.take n) = word64 bytes := by
  rw [word64, word64, List.take_take, Nat.min_eq_left h]

theorem word32_drop_take {start n : ℕ} (h : start + 4 ≤ n) :
    word32 ((bytes.take n).drop start) = word32 (bytes.drop start) := by
  rw [List.drop_take, word32_take (by omega)]

theorem word64_drop_take {start n : ℕ} (h : start + 8 ≤ n) :
    word64 ((bytes.take n).drop start) = word64 (bytes.drop start) := by
  rw [List.drop_take, word64_take (by omega)]

theorem sliceWord32?_of_le {start stop : ℕ} (h : start + 4 ≤ stop) (hstop : stop ≤ bytes.length) :
    sliceWord32? bytes start stop = some (word32 (bytes.drop start)) := by
  have hlength : 4 ≤ ((bytes.drop start).take (stop - start)).length := by
    rw [List.length_take, List.length_drop]
    omega
  rw [sliceWord32?, slice?_of_le (by omega) hstop, Option.bind_eq_bind, Option.bind_some,
    readWord32?_of_le hlength, word32_take (by omega)]

theorem sliceWord64?_of_le {start stop : ℕ} (h : start + 8 ≤ stop) (hstop : stop ≤ bytes.length) :
    sliceWord64? bytes start stop = some (word64 (bytes.drop start)) := by
  have hlength : 8 ≤ ((bytes.drop start).take (stop - start)).length := by
    rw [List.length_take, List.length_drop]
    omega
  rw [sliceWord64?, slice?_of_le (by omega) hstop, Option.bind_eq_bind, Option.bind_some,
    readWord64?_of_le hlength, word64_take (by omega)]

theorem toNatLE_take (count : ℕ) (bytes : Bytes) : toNatLE (bytes.take count) =
    ((List.range count).map fun k ↦ (bytes.getD k 0).toNat * 256 ^ k).sum := by
  induction count generalizing bytes with
  | zero => rfl
  | succ count ih =>
    cases bytes with
    | nil => simp
    | cons b bytes =>
      have hrest : ∀ k, ((b :: bytes).getD (k + 1) 0).toNat * 256 ^ (k + 1) =
          256 * ((bytes.getD k 0).toNat * 256 ^ k) := by
        intro k
        rw [List.getD_cons_succ]
        ring
      rw [List.take_succ_cons, toNatLE_cons, ih, List.range_succ_eq_map, List.map_cons,
        List.sum_cons, List.map_map, List.getD_cons_zero, Nat.pow_zero, Nat.mul_one,
        ← List.sum_map_mul_left]
      exact congrArg (b.toNat + List.sum ·) (List.map_congr_left fun k _ ↦ (hrest k).symm)

end CausalReplica.Bytes
