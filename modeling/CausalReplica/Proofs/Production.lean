import CausalReplica.Proofs.BareVector
import Mathlib.Data.Set.List

/-!
# Where vectors come from

No operation on bare vectors looks at more than the entries, and none repairs what it is given. That
the nodes of a vector increase and its counters are positive is kept up by all of them together:
whatever the operations make, in any combination, is a vector that has forgotten its proofs. Since
forgetting goes along with every operation, one step of the induction is one of the equations
between the two kinds of vectors.

Conversely every vector is obtained so. One counter is raised to its value from the first write of
its node, and the merge of all of these is the vector. Only the greatest value cannot be passed.
-/

namespace CausalReplica

namespace BareVector

/-- What the operations make, in any combination. -/
inductive Obtained : BareVector → Prop
  | empty : Obtained .empty
  | authored (node : NodeId) : Obtained (.authored node)
  | ofWire {raw : List WireEntry} {v : BareVector} (h : ofWire raw = .ok v) : Obtained v
  | merge {v w : BareVector} (hv : Obtained v) (hw : Obtained w) : Obtained (v.merge w)
  | mergeAll {vs : List BareVector} (h : ∀ v ∈ vs, Obtained v) : Obtained (mergeAll vs)
  | increment {v w : BareVector} {node : NodeId} (hv : Obtained v)
    (h : v.increment node = .ok w) : Obtained w

/-- The entries are those of a vector. -/
structure Proper (v : BareVector) : Prop where
  /-- The nodes increase strictly. -/
  increasing : v.entries.Pairwise fun d e ↦ d.1.toNat < e.1.toNat
  positive : ∀ e ∈ v.entries, 1 ≤ e.2

theorem proper_iff {v : BareVector} : v.Proper ↔ ∃ w : VersionVector, w.bare = v := by
  have hlt : ∀ d e : NodeId × UInt64, compare d.1 e.1 = .lt ↔ d.1.toNat < e.1.toNat :=
    fun _ _ ↦ Nat.compare_eq_lt
  have hpos : ∀ c : UInt64, 0 < c ↔ 1 ≤ c := fun c ↦ by
    rw [UInt64.lt_iff_toNat_lt, UInt64.le_iff_toNat_le]
    rfl
  constructor
  · rintro ⟨hincreasing, hpositive⟩
    have hsorted : v.entries.Pairwise fun d e ↦ compare d.1 e.1 = .lt :=
      hincreasing.imp fun h ↦ (hlt _ _).2 h
    exact ⟨⟨⟨v.entries, hsorted⟩, fun e he ↦ (hpos _).2 (hpositive e he)⟩, rfl⟩
  · rintro ⟨w, rfl⟩
    exact ⟨w.counts.sorted.imp fun h ↦ (hlt _ _).1 h, fun e he ↦ (hpos _).1 (w.positive e he)⟩

/-! ## The operations make vectors only -/

theorem exists_bare_of_map {result : Except VectorError VersionVector} {v : BareVector}
    (h : result.map (·.bare) = .ok v) : ∃ w : VersionVector, w.bare = v := by
  cases result with
  | error e => contradiction
  | ok w => exact ⟨w, Except.ok.inj h⟩

theorem Obtained.exists_bare {v : BareVector} (h : v.Obtained) :
    ∃ w : VersionVector, w.bare = v := by
  induction h with
  | empty => exact ⟨.empty, rfl⟩
  | authored node => exact ⟨.authored node, rfl⟩
  | @ofWire raw v h => exact exists_bare_of_map ((ofWire_bare raw).symm.trans h)
  | merge _ _ ihv ihw =>
    obtain ⟨v, rfl⟩ := ihv
    obtain ⟨w, rfl⟩ := ihw
    exact ⟨v.merge w, (merge_bare v w).symm⟩
  | @mergeAll vs _ ih =>
    obtain ⟨ws, rfl⟩ : vs ∈ Set.range (List.map VersionVector.bare) := by
      rw [Set.range_list_map]
      exact ih
    exact ⟨.mergeAll ws, (mergeAll_bare ws).symm⟩
  | @increment v w node _ h ih =>
    obtain ⟨v, rfl⟩ := ih
    exact exists_bare_of_map ((increment_bare v node).symm.trans h)

end BareVector

namespace VersionVector

/-! ## All vectors are made so -/

theorem exists_increment {v : VersionVector} {n : NodeId} (h : v.writes n + 1 < UInt64.size) :
    ∃ w, v.increment n = .ok w := by
  rw [increment]
  exact ⟨_, dif_pos h⟩

theorem increment_of_full {v : VersionVector} {n : NodeId} (h : v.writes n + 1 = UInt64.size) :
    v.increment n = .error (.counterOverflow n) := by
  rw [increment]
  exact dif_neg (Nat.not_lt.2 (Nat.le_of_eq h.symm))

theorem exists_obtained_single (n : NodeId) {k : ℕ} (hpos : 1 ≤ k) (hlt : k < UInt64.size) :
    ∃ v : VersionVector, v.bare.Obtained ∧ v.writes n = k ∧ ∀ m, m ≠ n → v.writes m = 0 := by
  induction k, hpos using Nat.le_induction with
  | base =>
    refine ⟨.authored n, .authored n, ?_, fun m hm ↦ ?_⟩
    · exact writes_set_self _
    · exact (writes_set_ne _ hm).trans (writes_empty m)
  | succ k hpos ih =>
    obtain ⟨v, hv, hself, hother⟩ := ih (by omega)
    obtain ⟨w, hw⟩ := exists_increment (v := v) (n := n) (by omega)
    have hbare : v.bare.increment n = .ok w.bare := by
      rw [BareVector.increment_bare, hw]
      rfl
    obtain ⟨hwself, hwother⟩ := writes_of_increment hw
    refine ⟨w, .increment hv hbare, by omega, fun m hm ↦ ?_⟩
    rw [hwother m hm, hother m hm]

/-- What a vector shows for the nodes of a list is obtained by merging. -/
theorem exists_obtained_part (v : VersionVector) (ns : List NodeId) :
    ∃ w : VersionVector, w.bare.Obtained ∧
      ∀ m, w.writes m = if m ∈ ns then v.writes m else 0 := by
  induction ns with
  | nil => exact ⟨.empty, .empty, fun m ↦ by simp⟩
  | cons n ns ih =>
    obtain ⟨w, hw, hwrites⟩ := ih
    rcases Nat.eq_zero_or_pos (v.writes n) with hzero | hpos
    · refine ⟨w, hw, fun m ↦ ?_⟩
      by_cases hm : m = n
      · rw [hm, hwrites, hzero, ite_self, ite_self]
      · simp [hwrites, hm]
    · obtain ⟨x, hx, hself, hother⟩ := exists_obtained_single n hpos (v.count n).toNat_lt
      refine ⟨x.merge w, BareVector.merge_bare x w ▸ hx.merge hw, fun m ↦ ?_⟩
      rw [writes_merge, hwrites]
      by_cases hm : m = n
      · rw [hm, hself, if_pos List.mem_cons_self]
        split
        · exact max_self _
        · exact max_eq_left (Nat.zero_le _)
      · simp [hother m hm, hm]

theorem obtained_bare (v : VersionVector) : v.bare.Obtained := by
  obtain ⟨w, hw, hwrites⟩ := v.exists_obtained_part v.nodes
  have heq : w = v := by
    refine ext_writes fun m ↦ ?_
    rw [hwrites]
    split <;> rename_i hm
    · rfl
    · rw [mem_nodes_iff] at hm
      omega
  exact heq ▸ hw

/-! ## One more write -/

/-- Whatever the operations make of bare lists, in any combination, is a list of increasing nodes
with positive counters, and these lists are the vectors. One more write of a node fails exactly if
its counter is the greatest of sixty-four bits, and the fault names the node. Otherwise it gives a
vector whose counter for the node is greater by one, whose other counters are the same, and which
dominates the vector before. To search the place of the counter in a bare list comes to the same. -/
theorem increment_raises_one_counter :
    (∀ v : BareVector, v.Obtained ↔ v.Proper) ∧
    (∀ v : BareVector, v.Proper ↔ ∃ w : VersionVector, w.bare = v) ∧
    ∀ (v : VersionVector) (n : NodeId),
      ((v.count n).toNat = UInt64.size - 1 → v.increment n = .error (.counterOverflow n)) ∧
      ((v.count n).toNat ≠ UInt64.size - 1 → ∃ w, v.increment n = .ok w ∧
        (w.count n).toNat = (v.count n).toNat + 1 ∧ (∀ m, m ≠ n → w.count m = v.count m) ∧
        w.relate v = .dominates) ∧
      v.bare.increment n = (v.increment n).map (·.bare) := by
  have hsize : 0 < UInt64.size := by decide
  refine ⟨fun v ↦ ?_, fun v ↦ BareVector.proper_iff,
    fun v n ↦ ⟨fun hfull ↦ ?_, fun hroom ↦ ?_, BareVector.increment_bare v n⟩⟩
  · rw [BareVector.proper_iff]
    constructor
    · exact BareVector.Obtained.exists_bare
    · rintro ⟨w, rfl⟩
      exact w.obtained_bare
  · have heq : v.writes n = UInt64.size - 1 := hfull
    exact increment_of_full (by omega)
  · have hlt : v.writes n < UInt64.size := (v.count n).toNat_lt
    have hne : v.writes n ≠ UInt64.size - 1 := hroom
    obtain ⟨w, hw⟩ := exists_increment (v := v) (n := n) (by omega)
    obtain ⟨hself, hother⟩ := writes_of_increment hw
    exact ⟨w, hw, hself, fun m hm ↦ UInt64.toNat_inj.1 (hother m hm),
      relate_eq_dominates_iff.2 (lt_of_increment hw)⟩

/-- A vector whose counter for the first node is the greatest one, and one more write of either the
first node or the second. -/
theorem increment_raises_one_counter_full :
    let v : VersionVector := empty.set (.ofByte 1) (.ofNat (UInt64.size - 1)) (by decide)
    (v.count (.ofByte 1)).toNat = UInt64.size - 1 ∧
    v.increment (.ofByte 1) = .error (.counterOverflow (.ofByte 1)) ∧
    (v.count (.ofByte 2)).toNat ≠ UInt64.size - 1 ∧
    ∃ w, v.increment (.ofByte 2) = .ok w ∧ (w.count (.ofByte 2)).toNat = 1 ∧
      w.relate v = .dominates := by
  intro v
  have hfull : (v.count (.ofByte 1)).toNat = UInt64.size - 1 := by decide
  have hzero : (v.count (.ofByte 2)).toNat = 0 := by decide
  have hroom : (v.count (.ofByte 2)).toNat ≠ UInt64.size - 1 := by rw [hzero]; decide
  obtain ⟨-, -, hincrement⟩ := increment_raises_one_counter
  obtain ⟨w, hw, hself, -, hdominates⟩ := (hincrement v (.ofByte 2)).2.1 hroom
  rw [hzero] at hself
  exact ⟨hfull, (hincrement v (.ofByte 1)).1 hfull, hroom, w, hw, hself, hdominates⟩

end VersionVector

end CausalReplica
