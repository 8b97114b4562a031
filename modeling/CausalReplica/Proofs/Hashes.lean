import CausalReplica.Hash.Published
import CausalReplica.Hash.XX32
import CausalReplica.Hash.XX64
import CausalReplica.Proofs.Chunks

/-!
# The hashes are the published ones

The loops of a hash cut their bytes off, the published hash looks them up by their positions. One
step of either does the same to a word, by computation; what has to be seen is that a step reads the
same bytes. A loop that has cut off `i` pieces stands at position `size * i`, and the phases follow
each other without a gap: what remains of the stripes begins at the last multiple of the stripe's
size, and what remains of the words at the last multiple of the word's size.

Reading by chunks gives the same value, since every read is within a chunk and every chunk is whole.
-/

namespace CausalReplica

/-! ## Words at positions -/

namespace Bytes

theorem getD_drop (bytes : Bytes) (p k : ℕ) : (bytes.drop p).getD k 0 = bytes.getD (p + k) 0 := by
  rw [List.getD_eq_getElem?_getD, List.getD_eq_getElem?_getD, List.getElem?_drop]

theorem ofNat_toNatLE (w count : ℕ) (bytes : Bytes) (p : ℕ) :
    BitVec.ofNat w (toNatLE ((bytes.drop p).take count)) = wordAt w count bytes p := by
  simp only [toNatLE_take, getD_drop, wordAt]

theorem toBitVec_word32 (bytes : Bytes) (p : ℕ) :
    (word32 (bytes.drop p)).toBitVec = wordAt 32 4 bytes p := by
  rw [word32, UInt32.toBitVec_ofNat', ofNat_toNatLE]

theorem toBitVec_word64 (bytes : Bytes) (p : ℕ) :
    (word64 (bytes.drop p)).toBitVec = wordAt 64 8 bytes p := by
  rw [word64, UInt64.toBitVec_ofNat', ofNat_toNatLE]

theorem toBitVec_half (bytes : Bytes) (p : ℕ) :
    (word32 (bytes.drop p)).toUInt64.toBitVec = wordAt 64 4 bytes p := by
  have hfits : toNatLE ((bytes.drop p).take 4) < 2 ^ 32 := by
    have hlength : ((bytes.drop p).take 4).length ≤ 4 := List.length_take_le _ _
    exact (toNatLE_lt _).trans_le (Nat.pow_le_pow_right (by decide) hlength)
  rw [UInt32.toBitVec_toUInt64, word32, UInt32.toBitVec_ofNat',
    BitVec.setWidth_ofNat_of_le_of_lt (by decide) hfits, ofNat_toNatLE]

theorem wordAt_one (w : ℕ) (bytes : Bytes) (p : ℕ) :
    wordAt w 1 bytes p = BitVec.ofNat w (bytes.getD p 0).toNat := by
  rw [wordAt, List.range_one, List.map_singleton, List.sum_singleton, Nat.add_zero,
    pow_zero, Nat.mul_one]

end Bytes

open Bytes (wordAt)

/-! ## The 32-bit hash -/

namespace XX32

def Lanes.get (l : Lanes) : Fin 4 → UInt32
  | 0 => l.a
  | 1 => l.b
  | 2 => l.c
  | 3 => l.d

theorem Lanes.get_absorb (l : Lanes) (stripe : Bytes) (k : Fin 4) :
    (l.absorb stripe).get k = round (l.get k) (Bytes.word32 (stripe.drop (4 * k))) := by
  match k with
  | 0 => rfl
  | 1 => rfl
  | 2 => rfl
  | 3 => rfl

theorem absorbAll_eq_foldl (n : ℕ) (l : Lanes) (bytes : Bytes) :
    Lanes.absorbAll n l bytes =
      (List.range n).foldl (fun l s ↦ l.absorb (bytes.drop (16 * s))) l :=
  Bytes.eq_foldl_range (fun _ _ ↦ rfl) (fun _ _ _ ↦ rfl) n l bytes

theorem toBitVec_get_absorbAll (bytes : Bytes) (l : Lanes) (k : Fin 4) :
    ((Lanes.absorbAll (bytes.length / 16) l bytes).get k).toBitVec =
      Published.lane bytes k (l.get k).toBitVec := by
  rw [absorbAll_eq_foldl, Published.lane]
  refine (List.foldl_hom (fun l : Lanes ↦ (l.get k).toBitVec) fun l s ↦ ?_).symm
  rw [Lanes.get_absorb, List.drop_drop, ← Bytes.toBitVec_word32]
  rfl

theorem toBitVec_head (bytes : Bytes) (seed : UInt32) :
    (head bytes seed).toBitVec = Published.head bytes seed.toBitVec := by
  have hlane := toBitVec_get_absorbAll bytes (Lanes.start seed)
  rw [head, Published.head]
  split
  · have ha : (Lanes.absorbAll (bytes.length / 16) (Lanes.start seed) bytes).a.toBitVec =
        Published.lane bytes 0 (seed.toBitVec + Published.prime1 + Published.prime2) := hlane 0
    have hb : (Lanes.absorbAll (bytes.length / 16) (Lanes.start seed) bytes).b.toBitVec =
        Published.lane bytes 1 (seed.toBitVec + Published.prime2) := hlane 1
    have hc : (Lanes.absorbAll (bytes.length / 16) (Lanes.start seed) bytes).c.toBitVec =
        Published.lane bytes 2 seed.toBitVec := hlane 2
    have hd : (Lanes.absorbAll (bytes.length / 16) (Lanes.start seed) bytes).d.toBitVec =
        Published.lane bytes 3 (seed.toBitVec - Published.prime1) := hlane 3
    rw [← ha, ← hb, ← hc, ← hd]
    rfl
  · rfl

def foldWord (h : UInt32) (bytes : Bytes) : UInt32 :=
  rotl (h + Bytes.word32 bytes * prime3) 17 * prime4

theorem foldWords_eq_foldl (n : ℕ) (h : UInt32) (bytes : Bytes) :
    foldWords n h bytes = (List.range n).foldl (fun h j ↦ foldWord h (bytes.drop (4 * j))) h :=
  Bytes.eq_foldl_range (fun _ _ ↦ rfl) (fun _ _ _ ↦ rfl) n h bytes

theorem toBitVec_foldWords (n : ℕ) (h : UInt32) (bytes : Bytes) (p : ℕ) :
    (foldWords n h (bytes.drop p)).toBitVec = (List.range n).foldl
      (fun h j ↦ Published.takeWord h (wordAt 32 4 bytes (p + 4 * j))) h.toBitVec := by
  rw [foldWords_eq_foldl]
  refine (List.foldl_hom UInt32.toBitVec fun h j ↦ ?_).symm
  rw [List.drop_drop, ← Bytes.toBitVec_word32]
  rfl

theorem toBitVec_foldBytes (h : UInt32) (bytes : Bytes) (p : ℕ) :
    (foldBytes h (bytes.drop p)).toBitVec = (List.range (bytes.length - p)).foldl
      (fun h j ↦ Published.takeByte h (wordAt 32 1 bytes (p + j))) h.toBitVec := by
  have hbyte : ∀ b : UInt8, BitVec.ofNat 32 b.toNat = b.toUInt32.toBitVec := fun b ↦ by
    rw [UInt8.toBitVec_toUInt32, ← UInt8.toNat_toBitVec, BitVec.ofNat_toNat]
  rw [foldBytes, Bytes.foldl_eq_foldl_range, List.length_drop]
  refine (List.foldl_hom UInt32.toBitVec fun h j ↦ ?_).symm
  rw [Bytes.getD_drop, Bytes.wordAt_one, hbyte]
  rfl

theorem toBitVec_hash (bytes : Bytes) (seed : UInt32) :
    (hash bytes seed).toBitVec = Published.hash bytes seed.toBitVec := by
  have htail : (bytes.drop (bytes.length / 16 * 16)).length = bytes.length % 16 := by
    rw [List.length_drop]
    omega
  have hposition : bytes.length / 16 * 16 + bytes.length % 16 / 4 * 4 = bytes.length / 4 * 4 := by
    omega
  have hlast : bytes.length - bytes.length / 4 * 4 = bytes.length % 4 := by omega
  have hstart : (head bytes seed + UInt32.ofNat bytes.length).toBitVec =
      Published.head bytes seed.toBitVec + BitVec.ofNat 32 bytes.length := by
    rw [UInt32.toBitVec_add, toBitVec_head, UInt32.toBitVec_ofNat']
  have havalanche : ∀ h, (avalanche h).toBitVec = Published.avalanche h.toBitVec := fun _ ↦ rfl
  rw [hash, htail, List.drop_drop, hposition, havalanche, toBitVec_foldBytes, hlast,
    toBitVec_foldWords, hstart]
  rfl

/-! ### By chunks -/

theorem Lanes.absorb?_take (l : Lanes) {bytes : Bytes} (h : 16 ≤ bytes.length) :
    l.absorb? (bytes.take 16) = some (l.absorb bytes) := by
  have hlength : (bytes.take 16).length = 16 := List.length_take_of_le h
  have hpart : ∀ start stop, start + 4 ≤ stop → stop ≤ 16 →
      Bytes.sliceWord32? (bytes.take 16) start stop = some (Bytes.word32 (bytes.drop start)) := by
    intro start stop hstart hstop
    rw [Bytes.sliceWord32?_of_le hstart (hstop.trans hlength.ge),
      Bytes.word32_drop_take (hstart.trans hstop)]
  rw [absorb?, hpart 0 4 (by decide) (by decide), hpart 4 8 (by decide) (by decide),
    hpart 8 12 (by decide) (by decide), hpart 12 16 (by decide) (by decide)]
  rfl

theorem head?_eq (bytes : Bytes) (seed : UInt32) :
    head? bytes seed = some (head bytes seed, bytes.drop (bytes.length / 16 * 16)) := by
  rw [head?, head]
  split <;> rename_i hlong
  · have hloop := Bytes.foldlM_chunks (by decide) (fun l _ h ↦ Lanes.absorb?_take l h) bytes
      (Lanes.start seed)
    dsimp only
    rw [hloop, ← absorbAll_eq_foldl, Bytes.chunksExact_eq (by decide)]
    rfl
  · have hnone : bytes.length / 16 * 16 = 0 := by omega
    rw [hnone, List.drop_zero]
    rfl

theorem foldWord?_take (h : UInt32) {bytes : Bytes} (hlong : 4 ≤ bytes.length) :
    foldWord? h (bytes.take 4) = some (foldWord h bytes) := by
  have hlength : 4 ≤ (bytes.take 4).length := (List.length_take_of_le hlong).ge
  rw [foldWord?, Bytes.readWord32?_of_le hlength, Bytes.word32_take (le_refl 4)]
  rfl

/-- Reading by chunks never reads outside of a chunk. -/
theorem hashByChunks?_eq (bytes : Bytes) (seed : UInt32) :
    hashByChunks? bytes seed = some (hash bytes seed) := by
  rw [hashByChunks?, head?_eq, Option.bind_eq_bind, Option.bind_some]
  dsimp only
  rw [Bytes.foldlM_chunks (by decide) (fun h _ hlong ↦ foldWord?_take h hlong),
    ← foldWords_eq_foldl, Bytes.chunksExact_eq (by decide)]
  rfl

end XX32

/-! ## The 64-bit hash -/

namespace XX64

def Lanes.get (l : Lanes) : Fin 4 → UInt64
  | 0 => l.a
  | 1 => l.b
  | 2 => l.c
  | 3 => l.d

theorem Lanes.get_absorb (l : Lanes) (stripe : Bytes) (k : Fin 4) :
    (l.absorb stripe).get k = round (l.get k) (Bytes.word64 (stripe.drop (8 * k))) := by
  match k with
  | 0 => rfl
  | 1 => rfl
  | 2 => rfl
  | 3 => rfl

theorem absorbAll_eq_foldl (n : ℕ) (l : Lanes) (bytes : Bytes) :
    Lanes.absorbAll n l bytes =
      (List.range n).foldl (fun l s ↦ l.absorb (bytes.drop (32 * s))) l :=
  Bytes.eq_foldl_range (fun _ _ ↦ rfl) (fun _ _ _ ↦ rfl) n l bytes

theorem toBitVec_get_absorbAll (bytes : Bytes) (l : Lanes) (k : Fin 4) :
    ((Lanes.absorbAll (bytes.length / 32) l bytes).get k).toBitVec =
      Published.lane bytes k (l.get k).toBitVec := by
  rw [absorbAll_eq_foldl, Published.lane]
  refine (List.foldl_hom (fun l : Lanes ↦ (l.get k).toBitVec) fun l s ↦ ?_).symm
  rw [Lanes.get_absorb, List.drop_drop, ← Bytes.toBitVec_word64]
  rfl

theorem toBitVec_head (bytes : Bytes) (seed : UInt64) :
    (head bytes seed).toBitVec = Published.head bytes seed.toBitVec := by
  have hlane := toBitVec_get_absorbAll bytes (Lanes.start seed)
  rw [head, Published.head]
  split
  · have ha : (Lanes.absorbAll (bytes.length / 32) (Lanes.start seed) bytes).a.toBitVec =
        Published.lane bytes 0 (seed.toBitVec + Published.prime1 + Published.prime2) := hlane 0
    have hb : (Lanes.absorbAll (bytes.length / 32) (Lanes.start seed) bytes).b.toBitVec =
        Published.lane bytes 1 (seed.toBitVec + Published.prime2) := hlane 1
    have hc : (Lanes.absorbAll (bytes.length / 32) (Lanes.start seed) bytes).c.toBitVec =
        Published.lane bytes 2 seed.toBitVec := hlane 2
    have hd : (Lanes.absorbAll (bytes.length / 32) (Lanes.start seed) bytes).d.toBitVec =
        Published.lane bytes 3 (seed.toBitVec - Published.prime1) := hlane 3
    rw [← ha, ← hb, ← hc, ← hd]
    rfl
  · rfl

def foldWord (h : UInt64) (bytes : Bytes) : UInt64 :=
  rotl (h ^^^ round 0 (Bytes.word64 bytes)) 27 * prime1 + prime4

theorem foldWords_eq_foldl (n : ℕ) (h : UInt64) (bytes : Bytes) :
    foldWords n h bytes = (List.range n).foldl (fun h j ↦ foldWord h (bytes.drop (8 * j))) h :=
  Bytes.eq_foldl_range (fun _ _ ↦ rfl) (fun _ _ _ ↦ rfl) n h bytes

theorem toBitVec_foldWords (n : ℕ) (h : UInt64) (bytes : Bytes) (p : ℕ) :
    (foldWords n h (bytes.drop p)).toBitVec = (List.range n).foldl
      (fun h j ↦ Published.takeWord h (wordAt 64 8 bytes (p + 8 * j))) h.toBitVec := by
  rw [foldWords_eq_foldl]
  refine (List.foldl_hom UInt64.toBitVec fun h j ↦ ?_).symm
  rw [List.drop_drop, ← Bytes.toBitVec_word64]
  rfl

theorem toBitVec_foldBytes (h : UInt64) (bytes : Bytes) (p : ℕ) :
    (foldBytes h (bytes.drop p)).toBitVec = (List.range (bytes.length - p)).foldl
      (fun h j ↦ Published.takeByte h (wordAt 64 1 bytes (p + j))) h.toBitVec := by
  have hbyte : ∀ b : UInt8, BitVec.ofNat 64 b.toNat = b.toUInt64.toBitVec := fun b ↦ by
    rw [UInt8.toBitVec_toUInt64, ← UInt8.toNat_toBitVec, BitVec.ofNat_toNat]
  rw [foldBytes, Bytes.foldl_eq_foldl_range, List.length_drop]
  refine (List.foldl_hom UInt64.toBitVec fun h j ↦ ?_).symm
  rw [Bytes.getD_drop, Bytes.wordAt_one, hbyte]
  rfl

/-- Behind the last whole word the half word stands at the last multiple of eight, and the last
bytes begin at the last multiple of four. -/
theorem toBitVec_foldRest (h : UInt64) (bytes : Bytes) :
    (foldRest h (bytes.drop (bytes.length / 8 * 8))).toBitVec =
      (List.range (bytes.length % 4)).foldl
        (fun h j ↦ Published.takeByte h (wordAt 64 1 bytes (bytes.length / 4 * 4 + j)))
        (if 4 ≤ bytes.length % 8 then
          Published.takeHalf h.toBitVec (wordAt 64 4 bytes (bytes.length / 8 * 8))
        else h.toBitVec) := by
  have hlength : (bytes.drop (bytes.length / 8 * 8)).length = bytes.length % 8 := by
    rw [List.length_drop]
    omega
  have hlast : bytes.length - bytes.length / 4 * 4 = bytes.length % 4 := by omega
  rw [foldRest, hlength]
  split <;> rename_i hhalf
  · have hposition : bytes.length / 8 * 8 + 4 = bytes.length / 4 * 4 := by omega
    have htake : (foldHalf h (bytes.drop (bytes.length / 8 * 8))).toBitVec =
        Published.takeHalf h.toBitVec (wordAt 64 4 bytes (bytes.length / 8 * 8)) := by
      rw [← Bytes.toBitVec_half]
      rfl
    rw [List.drop_drop, hposition, toBitVec_foldBytes, hlast, htake]
  · have hposition : bytes.length / 8 * 8 = bytes.length / 4 * 4 := by omega
    rw [hposition, toBitVec_foldBytes, hlast]

theorem toBitVec_hash (bytes : Bytes) (seed : UInt64) :
    (hash bytes seed).toBitVec = Published.hash bytes seed.toBitVec := by
  have htail : (bytes.drop (bytes.length / 32 * 32)).length = bytes.length % 32 := by
    rw [List.length_drop]
    omega
  have hposition : bytes.length / 32 * 32 + bytes.length % 32 / 8 * 8 = bytes.length / 8 * 8 := by
    omega
  have hstart : (head bytes seed + UInt64.ofNat bytes.length).toBitVec =
      Published.head bytes seed.toBitVec + BitVec.ofNat 64 bytes.length := by
    rw [UInt64.toBitVec_add, toBitVec_head, UInt64.toBitVec_ofNat']
  have havalanche : ∀ h, (avalanche h).toBitVec = Published.avalanche h.toBitVec := fun _ ↦ rfl
  rw [hash, htail, List.drop_drop, hposition, havalanche, toBitVec_foldRest, toBitVec_foldWords,
    hstart]
  rfl

/-! ### By chunks -/

theorem Lanes.absorb?_take (l : Lanes) {bytes : Bytes} (h : 32 ≤ bytes.length) :
    l.absorb? (bytes.take 32) = some (l.absorb bytes) := by
  have hlength : (bytes.take 32).length = 32 := List.length_take_of_le h
  have hpart : ∀ start stop, start + 8 ≤ stop → stop ≤ 32 →
      Bytes.sliceWord64? (bytes.take 32) start stop = some (Bytes.word64 (bytes.drop start)) := by
    intro start stop hstart hstop
    rw [Bytes.sliceWord64?_of_le hstart (hstop.trans hlength.ge),
      Bytes.word64_drop_take (hstart.trans hstop)]
  rw [absorb?, hpart 0 8 (by decide) (by decide), hpart 8 16 (by decide) (by decide),
    hpart 16 24 (by decide) (by decide), hpart 24 32 (by decide) (by decide)]
  rfl

theorem head?_eq (bytes : Bytes) (seed : UInt64) :
    head? bytes seed = some (head bytes seed, bytes.drop (bytes.length / 32 * 32)) := by
  rw [head?, head]
  split <;> rename_i hlong
  · have hloop := Bytes.foldlM_chunks (by decide) (fun l _ h ↦ Lanes.absorb?_take l h) bytes
      (Lanes.start seed)
    dsimp only
    rw [hloop, ← absorbAll_eq_foldl, Bytes.chunksExact_eq (by decide)]
    rfl
  · have hnone : bytes.length / 32 * 32 = 0 := by omega
    rw [hnone, List.drop_zero]
    rfl

theorem foldWord?_take (h : UInt64) {bytes : Bytes} (hlong : 8 ≤ bytes.length) :
    foldWord? h (bytes.take 8) = some (foldWord h bytes) := by
  have hlength : 8 ≤ (bytes.take 8).length := (List.length_take_of_le hlong).ge
  rw [foldWord?, Bytes.readWord64?_of_le hlength, Bytes.word64_take (le_refl 8)]
  rfl

theorem foldRest?_eq (h : UInt64) (bytes : Bytes) :
    foldRest? h bytes = some (foldRest h bytes) := by
  rw [foldRest?, foldRest]
  split <;> rename_i hhalf
  · have hrest : (bytes.drop 4).take (bytes.length - 4) = bytes.drop 4 := by
      rw [← List.length_drop, List.take_length]
    rw [Bytes.sliceWord32?_of_le (le_refl 4) hhalf, Bytes.slice?_of_le hhalf (le_refl _), hrest]
    rfl
  · rfl

/-- Reading by chunks never reads outside of a chunk. -/
theorem hashByChunks?_eq (bytes : Bytes) (seed : UInt64) :
    hashByChunks? bytes seed = some (hash bytes seed) := by
  rw [hashByChunks?, head?_eq, Option.bind_eq_bind, Option.bind_some]
  dsimp only
  rw [Bytes.foldlM_chunks (by decide) (fun h _ hlong ↦ foldWord?_take h hlong),
    ← foldWords_eq_foldl, Bytes.chunksExact_eq (by decide), Option.bind_eq_bind, Option.bind_some,
    foldRest?_eq]
  rfl

end XX64

/-! ## Both hashes -/

/-- For every byte string and every seed both hashes have the published value. Reading the bytes by
chunks gives the same value, and no read is outside of its slice. -/
theorem hashes_are_published (bytes : Bytes) :
    (∀ seed, (XX32.hash bytes seed).toBitVec = XX32.Published.hash bytes seed.toBitVec ∧
      XX32.hashByChunks? bytes seed = some (XX32.hash bytes seed)) ∧
    ∀ seed, (XX64.hash bytes seed).toBitVec = XX64.Published.hash bytes seed.toBitVec ∧
      XX64.hashByChunks? bytes seed = some (XX64.hash bytes seed) := by
  constructor
  · intro seed
    exact ⟨XX32.toBitVec_hash bytes seed, XX32.hashByChunks?_eq bytes seed⟩
  · intro seed
    exact ⟨XX64.toBitVec_hash bytes seed, XX64.hashByChunks?_eq bytes seed⟩

end CausalReplica
