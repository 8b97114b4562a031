import CausalReplica.Proofs.Dict
import CausalReplica.VersionVector.Merge
import Mathlib.Order.BoundedOrder.Lattice

/-!
# The causal order as a lattice

A version vector is a function that gives every node the number of its writes that have been seen.
Two vectors with the same function are equal, vectors are ordered pointwise, and this order is what
`relate` decides:

```text
equal       a = b          dominates   b < a
dominated   a < b          concurrent  ¬ a ≤ b and ¬ b ≤ a
```

The merge of two vectors is their least upper bound. All later reasoning about causality is order
reasoning: no proof beyond this file walks over the entries of a vector.
-/

namespace CausalReplica.VersionVector

/-- How many writes of a node have been seen. -/
def writes (v : VersionVector) (node : NodeId) : ℕ := (v.count node).toNat

theorem writes_eq_zero_of_find?_eq_none {v : VersionVector} {n : NodeId}
    (h : v.counts.find? n = none) : v.writes n = 0 := by
  rw [writes, count, h]
  rfl

theorem writes_pos_of_find?_eq_some {v : VersionVector} {n : NodeId} {k : UInt64}
    (h : v.counts.find? n = some k) : 0 < v.writes n := by
  rw [writes, count, h]
  exact UInt64.lt_iff_toNat_lt.1 (v.positive _ (Dict.mem_entries_iff.2 h))

theorem mem_nodes_iff {v : VersionVector} {n : NodeId} : n ∈ v.nodes ↔ 0 < v.writes n := by
  cases h : v.counts.find? n with
  | none =>
    rw [writes_eq_zero_of_find?_eq_none h]
    simpa [nodes] using Dict.find?_eq_none_iff.1 h
  | some k =>
    refine ⟨fun _ ↦ writes_pos_of_find?_eq_some h, fun _ ↦ ?_⟩
    by_contra hn
    rw [nodes, ← Dict.find?_eq_none_iff, h] at hn
    simp at hn

theorem ext_writes {a b : VersionVector} (h : ∀ n, a.writes n = b.writes n) : a = b := by
  refine ext_counts (Dict.ext_find? fun n ↦ ?_)
  cases ha : a.counts.find? n with
  | none =>
    cases hb : b.counts.find? n with
    | none => rfl
    | some k =>
      have hpos := writes_pos_of_find?_eq_some hb
      rw [← h, writes_eq_zero_of_find?_eq_none ha] at hpos
      simp at hpos
  | some k =>
    cases hb : b.counts.find? n with
    | none =>
      have hpos := writes_pos_of_find?_eq_some ha
      rw [h, writes_eq_zero_of_find?_eq_none hb] at hpos
      simp at hpos
    | some l =>
      have hkl := h n
      rw [writes, writes, count, count, ha, hb] at hkl
      exact congrArg some (UInt64.toNat_inj.1 hkl)

/-! ## The order -/

instance : LE VersionVector := ⟨fun a b ↦ ∀ n, a.writes n ≤ b.writes n⟩

theorem le_def {a b : VersionVector} : a ≤ b ↔ ∀ n, a.writes n ≤ b.writes n := Iff.rfl

instance : PartialOrder VersionVector where
  le_refl _ _ := le_rfl
  le_trans _ _ _ hab hbc n := (hab n).trans (hbc n)
  le_antisymm _ _ hab hba := ext_writes fun n ↦ le_antisymm (hab n) (hba n)

/-- The rows of two vectors meet every node with a counter on some side, and no other row can
matter to a property that two zeros do not have. -/
theorem any_counterPairs {a b : VersionVector} {p : UInt64 × UInt64 → Bool}
    (hp : p (0, 0) = false) :
    (counterPairs a b).any p = true ↔ ∃ n, p (a.count n, b.count n) = true := by
  rw [counterPairs, List.any_map, List.any_eq_true]
  constructor
  · rintro ⟨row, hrow, h⟩
    obtain ⟨-, hl, hr⟩ := Dict.mem_align.1 hrow
    rw [Function.comp_apply, hl, hr] at h
    exact ⟨row.key, h⟩
  · -- A node without a row would have no counter on either side.
    rintro ⟨n, h⟩
    refine ⟨⟨n, a.counts.find? n, b.counts.find? n⟩, Dict.mem_align.2 ⟨?_, rfl, rfl⟩, h⟩
    by_contra hn
    rw [not_or, ← Dict.find?_eq_none_iff, ← Dict.find?_eq_none_iff] at hn
    rw [count, count, hn.1, hn.2, Option.getD_none, hp] at h
    simp at h

theorem any_lt_iff {a b : VersionVector} :
    ((counterPairs a b).any fun p ↦ p.1 < p.2) = true ↔ ¬b ≤ a := by
  rw [any_counterPairs rfl, le_def, not_forall]
  simp only [decide_eq_true_eq, UInt64.lt_iff_toNat_lt, not_le, writes]

theorem any_gt_iff {a b : VersionVector} :
    ((counterPairs a b).any fun p ↦ p.2 < p.1) = true ↔ ¬a ≤ b := by
  rw [any_counterPairs rfl, le_def, not_forall]
  simp only [decide_eq_true_eq, UInt64.lt_iff_toNat_lt, not_le, writes]

theorem relate_cases (a b : VersionVector) :
    (a.relate b = .equal ∧ a ≤ b ∧ b ≤ a) ∨ (a.relate b = .dominates ∧ ¬a ≤ b ∧ b ≤ a) ∨
      (a.relate b = .dominated ∧ a ≤ b ∧ ¬b ≤ a) ∨
      (a.relate b = .concurrent ∧ ¬a ≤ b ∧ ¬b ≤ a) := by
  rw [relate]
  by_cases hab : a ≤ b
  · have hgt := Bool.eq_false_iff.2 fun h ↦ any_gt_iff.1 h hab
    by_cases hba : b ≤ a
    · have hlt := Bool.eq_false_iff.2 fun h ↦ any_lt_iff.1 h hba
      exact .inl ⟨by rw [hgt, hlt], hab, hba⟩
    · exact .inr (.inr (.inl ⟨by rw [hgt, any_lt_iff.2 hba], hab, hba⟩))
  · by_cases hba : b ≤ a
    · have hlt := Bool.eq_false_iff.2 fun h ↦ any_lt_iff.1 h hba
      exact .inr (.inl ⟨by rw [any_gt_iff.2 hab, hlt], hab, hba⟩)
    · exact .inr (.inr (.inr ⟨by rw [any_gt_iff.2 hab, any_lt_iff.2 hba], hab, hba⟩))

theorem relate_eq_equal_iff {a b : VersionVector} : a.relate b = .equal ↔ a = b := by
  have hiff : a = b ↔ a ≤ b ∧ b ≤ a := le_antisymm_iff
  rcases relate_cases a b with ⟨h, h'⟩ | ⟨h, h'⟩ | ⟨h, h'⟩ | ⟨h, h'⟩ <;> simp [h, h', hiff]

theorem relate_eq_dominates_iff {a b : VersionVector} : a.relate b = .dominates ↔ b < a := by
  rw [lt_iff_le_not_ge]
  rcases relate_cases a b with ⟨h, h'⟩ | ⟨h, h'⟩ | ⟨h, h'⟩ | ⟨h, h'⟩ <;> simp [h, h']

theorem relate_eq_dominated_iff {a b : VersionVector} : a.relate b = .dominated ↔ a < b := by
  rw [lt_iff_le_not_ge]
  rcases relate_cases a b with ⟨h, h'⟩ | ⟨h, h'⟩ | ⟨h, h'⟩ | ⟨h, h'⟩ <;> simp [h, h']

theorem relate_eq_concurrent_iff {a b : VersionVector} :
    a.relate b = .concurrent ↔ ¬a ≤ b ∧ ¬b ≤ a := by
  rcases relate_cases a b with ⟨h, h'⟩ | ⟨h, h'⟩ | ⟨h, h'⟩ | ⟨h, h'⟩ <;> simp [h, h']

theorem dominates_iff {a b : VersionVector} : a.dominates b = true ↔ b < a := by
  rw [dominates, decide_eq_true_iff, relate_eq_dominates_iff]

theorem covers_iff {a b : VersionVector} : a.covers b = true ↔ b ≤ a := by
  rw [covers, Bool.or_eq_true, decide_eq_true_iff, decide_eq_true_iff, relate_eq_dominates_iff,
    relate_eq_equal_iff, le_iff_lt_or_eq, eq_comm]

/-! ## Merging -/

theorem toNat_greater (x y : Option UInt64) :
    (greater x y).toNat = max (x.getD 0).toNat (y.getD 0).toNat := by
  rw [greater]
  split <;> rename_i h
  · rw [max_eq_right (UInt64.le_iff_toNat_le.1 h)]
  · rw [UInt64.le_iff_toNat_le, not_le] at h
    rw [max_eq_left h.le]

theorem writes_merge (a b : VersionVector) (n : NodeId) :
    (a.merge b).writes n = max (a.writes n) (b.writes n) := by
  cases h : (a.merge b).counts.find? n with
  | some k =>
    obtain ⟨-, hk⟩ := Dict.find?_join_eq_some_iff.1 h
    rw [writes, count, h, Option.getD_some, ← hk, toNat_greater]
    rfl
  | none =>
    -- The join has every key of either side, so the node has no counter on either side.
    have hn : ¬(n ∈ a.nodes ∨ n ∈ b.nodes) := fun hn ↦ by
      have hsome : (a.merge b).counts.find? n = some _ :=
        Dict.find?_join_eq_some_iff.2 ⟨hn, rfl⟩
      rw [h] at hsome
      simp at hsome
    rw [not_or, mem_nodes_iff, mem_nodes_iff] at hn
    rw [writes_eq_zero_of_find?_eq_none h]
    omega

instance : SemilatticeSup VersionVector where
  sup := merge
  le_sup_left a b n := by rw [writes_merge]; exact le_max_left _ _
  le_sup_right a b n := by rw [writes_merge]; exact le_max_right _ _
  sup_le a b c hac hbc n := by rw [writes_merge]; exact max_le (hac n) (hbc n)

theorem sup_def (a b : VersionVector) : a ⊔ b = a.merge b := rfl

@[simp] theorem writes_empty (n : NodeId) : empty.writes n = 0 := rfl

instance : OrderBot VersionVector where
  bot := empty
  bot_le v n := by rw [writes_empty]; exact Nat.zero_le _

theorem bot_def : (⊥ : VersionVector) = empty := rfl

/-- Merging any number of vectors gives their least upper bound. -/
theorem mergeAll_le_iff {vs : List VersionVector} {w : VersionVector} :
    mergeAll vs ≤ w ↔ ∀ v ∈ vs, v ≤ w := by
  have hfold : ∀ (vs : List VersionVector) (acc : VersionVector),
      vs.foldl merge acc ≤ w ↔ acc ≤ w ∧ ∀ v ∈ vs, v ≤ w := by
    intro vs
    induction vs with
    | nil => intro acc; simp
    | cons v vs ih =>
      intro acc
      rw [List.foldl_cons, ih, ← sup_def, sup_le_iff, List.forall_mem_cons, and_assoc]
  rw [mergeAll, hfold, ← bot_def]
  simp

theorem mergeAll_congr {vs ws : List VersionVector} (h : ∀ v, v ∈ vs ↔ v ∈ ws) :
    mergeAll vs = mergeAll ws := by
  refine eq_of_forall_ge_iff fun u ↦ ?_
  rw [mergeAll_le_iff, mergeAll_le_iff]
  simp only [h]

/-! ## Writing -/

theorem isEmpty_iff {v : VersionVector} : v.isEmpty = true ↔ v = ⊥ := by
  constructor
  · intro h
    have hes : v.counts.entries = [] := List.isEmpty_iff.1 h
    exact ext_counts (Dict.ext_entries hes)
  · rintro rfl
    rfl

theorem writes_set_self {v : VersionVector} {n : NodeId} {k : UInt64} (h : 0 < k) :
    (v.set n k h).writes n = k.toNat := by
  rw [writes, count, set, Dict.find?_insert_self, Option.getD_some]

theorem writes_set_ne {v : VersionVector} {n m : NodeId} {k : UInt64} (h : 0 < k) (hm : m ≠ n) :
    (v.set n k h).writes m = v.writes m := by
  rw [writes, count, set, Dict.find?_insert_ne _ hm, writes, count]

theorem writes_of_increment {v w : VersionVector} {n : NodeId} (h : v.increment n = .ok w) :
    w.writes n = v.writes n + 1 ∧ ∀ m, m ≠ n → w.writes m = v.writes m := by
  rw [increment] at h
  split at h
  · rename_i hk
    obtain rfl := Except.ok.inj h
    refine ⟨?_, fun m hm ↦ writes_set_ne _ hm⟩
    rw [writes_set_self, UInt64.toNat_add]
    exact Nat.mod_eq_of_lt hk
  · simp at h

theorem lt_of_increment {v w : VersionVector} {n : NodeId} (h : v.increment n = .ok w) : v < w := by
  obtain ⟨hself, hother⟩ := writes_of_increment h
  refine lt_of_le_not_ge (fun m ↦ ?_) fun hle ↦ ?_
  · by_cases hm : m = n
    · subst hm
      omega
    · rw [hother m hm]
  · have := hle n
    omega

end CausalReplica.VersionVector
