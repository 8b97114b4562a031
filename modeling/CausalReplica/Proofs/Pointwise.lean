import CausalReplica.Proofs.BareVector

/-!
# Vectors node by node

How two vectors stand to each other, and what their merge is, can be told from the counters that
they show for single nodes. The relation compares all counters, the merge takes the greater one of
each two, and no two vectors show the same counters for all nodes. So what is known of orders and
least upper bounds holds of vectors, as equalities of vectors and not only up to their relation.

The loops on bare vectors come to the same, although a comparison there stops at the first node that
makes it certain, and a counter is found by bisection.
-/

namespace CausalReplica.VersionVector

variable {a b : VersionVector}

/-! ## The order through counters -/

theorem le_iff_count : a ≤ b ↔ ∀ n, a.count n ≤ b.count n := by
  simp only [le_def, writes, UInt64.le_iff_toNat_le]

theorem not_le_iff_count : ¬a ≤ b ↔ ∃ n, b.count n < a.count n := by
  simp only [le_iff_count, not_forall, UInt64.not_le]

theorem lt_iff_count : a < b ↔ (∀ n, a.count n ≤ b.count n) ∧ ∃ n, a.count n < b.count n := by
  rw [lt_iff_le_not_ge, le_iff_count, not_le_iff_count]

theorem ext_count_iff : a = b ↔ ∀ n, a.count n = b.count n := by
  constructor
  · rintro rfl n
    rfl
  · intro h
    exact ext_writes fun n ↦ congrArg UInt64.toNat (h n)

theorem count_merge (a b : VersionVector) (n : NodeId) :
    (a.merge b).count n = max (a.count n) (b.count n) := by
  rw [← UInt64.toNat_inj, UInt64.toNat_max]
  exact writes_merge a b n

theorem relate_reverse (a b : VersionVector) : b.relate a = (a.relate b).reverse := by
  cases h : a.relate b with
  | equal => exact relate_eq_equal_iff.2 (relate_eq_equal_iff.1 h).symm
  | dominates => exact relate_eq_dominated_iff.2 (relate_eq_dominates_iff.1 h)
  | dominated => exact relate_eq_dominates_iff.2 (relate_eq_dominated_iff.1 h)
  | concurrent => exact relate_eq_concurrent_iff.2 (relate_eq_concurrent_iff.1 h).symm

/-- The relation of two vectors compares what they show for all nodes. They are equal if they show
the same, one dominates the other if it shows at least as much and more somewhere, and they are
concurrent if each shows more somewhere. Only equal entries make equal vectors, an exchange reverses
the relation, and to dominate is transitive. A walk that stops early decides the relation, and
bisection finds the counters. -/
theorem relate_compares_counters (a b c : VersionVector) :
    (a.relate b = .equal ↔ ∀ n, a.count n = b.count n) ∧
    (a.relate b = .dominates ↔
      (∀ n, b.count n ≤ a.count n) ∧ ∃ n, b.count n < a.count n) ∧
    (a.relate b = .dominated ↔
      (∀ n, a.count n ≤ b.count n) ∧ ∃ n, a.count n < b.count n) ∧
    (a.relate b = .concurrent ↔
      (∃ n, b.count n < a.count n) ∧ ∃ n, a.count n < b.count n) ∧
    (a.relate b = .equal ↔ a.entries = b.entries) ∧
    b.relate a = (a.relate b).reverse ∧
    (a.relate b = .dominates → b.relate c = .dominates → a.relate c = .dominates) ∧
    a.bare.relate b.bare = a.relate b ∧ ∀ n, a.bare.count n = a.count n := by
  refine ⟨?_, ?_, ?_, ?_, ?_, relate_reverse a b, ?_, BareVector.relate_bare a b,
    BareVector.count_bare a⟩
  · rw [relate_eq_equal_iff, ext_count_iff]
  · rw [relate_eq_dominates_iff, lt_iff_count]
  · rw [relate_eq_dominated_iff, lt_iff_count]
  · rw [relate_eq_concurrent_iff, not_le_iff_count, not_le_iff_count]
  · rw [relate_eq_equal_iff]
    exact ⟨fun h ↦ congrArg entries h, fun h ↦ ext_counts (Dict.ext_entries h)⟩
  · intro hab hbc
    rw [relate_eq_dominates_iff] at hab hbc ⊢
    exact hbc.trans hab

/-- Three writes of two nodes, each on top of the one before it. -/
theorem relate_compares_counters_chain :
    let first : VersionVector := .authored (.ofByte 1)
    let second := first.merge (.authored (.ofByte 2))
    let third := second.set (.ofByte 1) 5 (by decide)
    third.relate second = .dominates ∧ second.relate first = .dominates ∧
      third.relate first = .dominates ∧ first.relate third = .dominated := by
  intro first second third
  have hthird : third.relate second = .dominates := by decide
  have hsecond : second.relate first = .dominates := by decide
  obtain ⟨-, -, -, -, -, -, htrans, -⟩ := relate_compares_counters third second first
  obtain ⟨-, -, -, -, -, hreverse, -⟩ := relate_compares_counters third first second
  have hchain := htrans hthird hsecond
  exact ⟨hthird, hsecond, hchain, hreverse.trans (congrArg Causality.reverse hchain)⟩

/-! ## Merging -/

/-- The merge of two vectors shows the greater one of their counters for every node. It is their
least upper bound: a vector covers it exactly if it covers both of them. It is commutative,
associative and idempotent, the empty vector changes nothing, and if neither of the two covers the
other, it dominates both. The merge of a list depends only on which vectors are in the list. The
lockstep walk over bare vectors gives the same merges. -/
theorem merge_is_least_upper_bound (a b c : VersionVector) :
    (∀ n, (a.merge b).count n = max (a.count n) (b.count n)) ∧
    (c.covers (a.merge b) = true ↔ c.covers a = true ∧ c.covers b = true) ∧
    a.merge b = b.merge a ∧
    (a.merge b).merge c = a.merge (b.merge c) ∧
    a.merge a = a ∧ a.merge empty = a ∧ empty.merge a = a ∧
    (a.relate b = .concurrent →
      (a.merge b).relate a = .dominates ∧ (a.merge b).relate b = .dominates) ∧
    (∀ vs ws : List VersionVector, (∀ v, v ∈ vs ↔ v ∈ ws) → mergeAll vs = mergeAll ws) ∧
    a.bare.merge b.bare = (a.merge b).bare ∧
    ∀ vs : List VersionVector, BareVector.mergeAll (vs.map (·.bare)) = (mergeAll vs).bare := by
  refine ⟨count_merge a b, ?_, sup_comm a b, sup_assoc a b c, sup_idem a, sup_bot_eq a,
    bot_sup_eq a, fun h ↦ ?_, fun vs ws ↦ mergeAll_congr, BareVector.merge_bare a b,
    BareVector.mergeAll_bare⟩
  · simp only [covers_iff]
    exact sup_le_iff
  · obtain ⟨hab, hba⟩ := relate_eq_concurrent_iff.1 h
    rw [relate_eq_dominates_iff, relate_eq_dominates_iff]
    exact ⟨left_lt_sup.2 hba, right_lt_sup.2 hab⟩

/-- Two writes that have not seen each other, merged in either order and with repetitions. -/
theorem merge_is_least_upper_bound_crossing :
    let a : VersionVector := .authored (.ofByte 1)
    let b : VersionVector := .authored (.ofByte 2)
    a.relate b = .concurrent ∧ (a.merge b).relate a = .dominates ∧
      (a.merge b).relate b = .dominates ∧ mergeAll [a, b] = mergeAll [b, a, b, a] := by
  intro a b
  have hconcurrent : a.relate b = .concurrent := by decide
  have hsame : ∀ v, v ∈ [a, b] ↔ v ∈ [b, a, b, a] := by
    intro v
    grind
  obtain ⟨-, -, -, -, -, -, -, hdominates, hall, -⟩ := merge_is_least_upper_bound a b a
  obtain ⟨ha, hb⟩ := hdominates hconcurrent
  exact ⟨hconcurrent, ha, hb, hall _ _ hsame⟩

end CausalReplica.VersionVector
