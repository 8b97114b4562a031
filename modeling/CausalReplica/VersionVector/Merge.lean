import CausalReplica.VersionVector.Order

/-!
# Merging version vectors

The merge of two vectors has seen the writes that either of them has seen: for every node it has the
greater counter.
-/

namespace CausalReplica.VersionVector

/-- The greater of the counters that two sides hold; a missing counter counts as zero. -/
def greater (a b : Option UInt64) : UInt64 :=
  if a.getD 0 ≤ b.getD 0 then b.getD 0 else a.getD 0

theorem left_le_greater (a b : Option UInt64) : a.getD 0 ≤ greater a b := by
  rw [greater]
  split
  · assumption
  · exact UInt64.le_refl _

theorem right_le_greater (a b : Option UInt64) : b.getD 0 ≤ greater a b := by
  rw [greater]
  split
  · exact UInt64.le_refl _
  · exact UInt64.le_of_lt (UInt64.not_le.1 ‹_›)

theorem pos_of_mem_alignEntries {ls rs : List (NodeId × UInt64)}
    (hl : ∀ e ∈ ls, 0 < e.2) (hr : ∀ e ∈ rs, 0 < e.2) {row : Dict.Row NodeId UInt64 UInt64}
    (h : row ∈ Dict.alignEntries ls rs) : 0 < greater row.left row.right := by
  have left : ∀ {a : UInt64} (b : Option UInt64), 0 < a → 0 < greater (some a) b :=
    fun b h ↦ UInt64.lt_of_lt_of_le h (left_le_greater (some _) b)
  have right : ∀ {a : UInt64} (b : Option UInt64), 0 < a → 0 < greater b (some a) :=
    fun b h ↦ UInt64.lt_of_lt_of_le h (right_le_greater b (some _))
  induction ls generalizing rs with
  | nil =>
    obtain ⟨r, hmem, rfl⟩ := List.mem_map.1 h
    exact right _ (hr r hmem)
  | cons l ls ih =>
    have hl0 := hl l List.mem_cons_self
    have hls : ∀ e ∈ ls, 0 < e.2 := fun e he ↦ hl e (List.mem_cons_of_mem _ he)
    induction rs with
    | nil =>
      rcases List.mem_cons.1 h with rfl | h
      · exact left _ hl0
      · exact ih hls hr h
    | cons r rs ihr =>
      have hr0 := hr r List.mem_cons_self
      have hrs : ∀ e ∈ rs, 0 < e.2 := fun e he ↦ hr e (List.mem_cons_of_mem _ he)
      simp only [Dict.alignEntries, Dict.alignCons] at h
      split at h <;> rcases List.mem_cons.1 h with rfl | h
      · exact left _ hl0
      · exact ih hls hr h
      · exact left _ hl0
      · exact ih hls hrs h
      · exact right _ hr0
      · exact ihr hrs h

/-- The greater counter of either vector for every node. -/
def merge (a b : VersionVector) : VersionVector :=
  ⟨Dict.join greater a.counts b.counts, fun e he ↦ by
    obtain ⟨row, hrow, rfl⟩ := List.mem_map.1 he
    exact pos_of_mem_alignEntries a.positive b.positive hrow⟩

def mergeAll (vs : List VersionVector) : VersionVector := vs.foldl merge empty

end CausalReplica.VersionVector
