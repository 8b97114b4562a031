import CausalReplica.Proofs.CausalOrder
import CausalReplica.Version.Basic

/-!
# Versions and their orders

Versions are related by their vectors. Where vectors leave open which version is to win, the latest
order decides. It is a total order of everything in a version but its id and its vector, so versions
of one document that are equal in it and have equal vectors are the same version.
-/

namespace CausalReplica.Version

theorem check_eq_ok_iff {v : Version} :
    v.check = .ok () ↔ v.id ≠ "" ∧ (v.tombstone = true → v.payload = []) ∧ v.vector ≠ ⊥ := by
  rw [check, ne_eq, ne_eq, ← VersionVector.isEmpty_iff]
  split
  · simp_all
  · split
    · simp_all
    · split <;> simp_all

/-! ## The causal order -/

theorem relate_eq_concurrent_iff {a b : Version} :
    a.relate b = .concurrent ↔ ¬a.vector ≤ b.vector ∧ ¬b.vector ≤ a.vector :=
  VersionVector.relate_eq_concurrent_iff

theorem relate_eq_dominates_iff {a b : Version} :
    a.relate b = .dominates ↔ b.vector < a.vector := VersionVector.relate_eq_dominates_iff

theorem relate_covered_iff {a b : Version} :
    a.relate b = .dominated ∨ a.relate b = .equal ↔ a.vector ≤ b.vector := by
  rw [relate, VersionVector.relate_eq_dominated_iff, VersionVector.relate_eq_equal_iff,
    le_iff_lt_or_eq]

theorem relate_new_iff {a b : Version} :
    a.relate b = .dominates ∨ a.relate b = .concurrent ↔ ¬a.vector ≤ b.vector := by
  rw [← relate_covered_iff]
  cases a.relate b <;> simp

theorem relate_concurrent_comm {a b : Version} :
    a.relate b = .concurrent ↔ b.relate a = .concurrent := by
  rw [relate_eq_concurrent_iff, relate_eq_concurrent_iff, and_comm]

/-! ## The latest order -/

theorem latestOrder_eq_compareLex : latestOrder = compareLex (compareOn modified)
    (compareLex (compareOn origin) (compareLex (compareOn tombstone)
      (compareLex (compareOn payload) (compareOn collection)))) := rfl

instance : Std.TransCmp latestOrder := by
  rw [latestOrder_eq_compareLex]
  infer_instance

theorem latestOrder_eq_eq_iff {a b : Version} : latestOrder a b = .eq ↔
    a.modified = b.modified ∧ a.origin = b.origin ∧ a.tombstone = b.tombstone ∧
      a.payload = b.payload ∧ a.collection = b.collection := by
  simp only [latestOrder, Ordering.then_eq_eq, Std.compare_eq_iff_eq]

theorem eq_of_latestOrder_eq {a b : Version} (hid : a.id = b.id) (hvec : a.vector = b.vector)
    (h : latestOrder a b = .eq) : a = b := by
  obtain ⟨hm, ho, ht, hp, hc⟩ := latestOrder_eq_eq_iff.1 h
  cases a
  cases b
  simp_all

theorem latestOrder_lt_of_modified_lt {a b : Version} (h : a.modified < b.modified) :
    latestOrder a b = .lt := by
  have hlt : compare a.modified b.modified = .lt := Std.compare_eq_lt.2 h
  rw [latestOrder, hlt]
  rfl

theorem latest?_cons_cons (a b : Version) (vs : List Version) :
    latest? (a :: b :: vs) = latest? ((if (latestOrder a b).isLE then b else a) :: vs) := by
  simp only [latest?, List.foldl_cons]
  split <;> rfl

/-- A latest version is one of the list, and none of the list is later. The induction takes the
first two versions for the later of them. -/
theorem latest?_cons (a : Version) (vs : List Version) : ∃ v, latest? (a :: vs) = some v ∧
    v ∈ a :: vs ∧ ∀ w ∈ a :: vs, (latestOrder w v).isLE := by
  induction vs generalizing a with
  | nil =>
    refine ⟨a, rfl, List.mem_cons_self, fun w hw ↦ ?_⟩
    rw [List.mem_singleton.1 hw]
    exact Std.ReflCmp.isLE_rfl
  | cons b vs ih =>
    obtain ⟨v, hv, hmem, hle⟩ := ih (if (latestOrder a b).isLE then b else a)
    refine ⟨v, (latest?_cons_cons a b vs).trans hv, ?_, ?_⟩
    · split at hmem
      · exact List.mem_cons_of_mem _ hmem
      · rcases List.mem_cons.1 hmem with rfl | hmem
        · exact List.mem_cons_self
        · exact List.mem_cons_of_mem _ (List.mem_cons_of_mem _ hmem)
    · rw [List.forall_mem_cons] at hle
      rw [List.forall_mem_cons, List.forall_mem_cons]
      obtain ⟨hfirst, hrest⟩ := hle
      split at hfirst <;> rename_i hab
      · exact ⟨Std.TransCmp.isLE_trans hab hfirst, hfirst, hrest⟩
      · have hba : latestOrder b a = .lt := Std.OrientedCmp.lt_of_not_isLE hab
        exact ⟨hfirst, Std.TransCmp.isLE_trans (by rw [hba]; rfl) hfirst, hrest⟩

theorem exists_latest? {vs : List Version} (h : vs ≠ []) : ∃ v, latest? vs = some v := by
  cases vs with
  | nil => exact absurd rfl h
  | cons a vs =>
    obtain ⟨v, hv, -⟩ := latest?_cons a vs
    exact ⟨v, hv⟩

theorem mem_of_latest? {vs : List Version} {v : Version} (h : latest? vs = some v) :
    v ∈ vs ∧ ∀ w ∈ vs, (latestOrder w v).isLE := by
  cases vs with
  | nil => simp [latest?] at h
  | cons a vs =>
    obtain ⟨u, hu, hspec⟩ := latest?_cons a vs
    obtain rfl := Option.some.inj (hu.symm.trans h)
    exact hspec

end CausalReplica.Version
