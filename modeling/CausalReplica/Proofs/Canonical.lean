import CausalReplica.Proofs.Conflict

/-!
# Canonical sequences

The members of a conflict are compared in canonical order, which looks at the vectors first. No two
members of an antichain have equal vectors, so the order puts them into one sequence only, whatever
sequence they came in. Hence two conflicts have the same members up to order exactly when their
canonical sequences are equal, and then their fingerprints are equal too.
-/

namespace CausalReplica

namespace VersionVector

instance : Std.TransCmp compareEntry :=
  inferInstanceAs (Std.TransCmp (compareLex (compareOn Prod.fst) (compareOn Prod.snd)))

theorem eq_of_compareEntry_eq {a b : NodeId × UInt64} (h : compareEntry a b = .eq) : a = b := by
  rw [compareEntry, compareLex, Ordering.then_eq_eq] at h
  exact Prod.ext (Std.compare_eq_iff_eq.1 h.1) (Std.compare_eq_iff_eq.1 h.2)

instance : Std.LawfulEqCmp compareEntry := ⟨eq_of_compareEntry_eq⟩

instance : Std.TransCmp canonicalOrder :=
  have h : Std.TransCmp (List.compareLex compareEntry) := inferInstance
  { eq_swap := h.eq_swap, isLE_trans := h.isLE_trans }

theorem eq_of_canonicalOrder_eq {a b : VersionVector} (h : a.canonicalOrder b = .eq) : a = b :=
  ext_counts (Dict.ext_entries (Std.LawfulEqCmp.eq_of_compare h))

end VersionVector

namespace Version

theorem canonicalOrder_eq_compareLex : canonicalOrder =
    compareLex (fun a b ↦ a.vector.canonicalOrder b.vector) (compareLex
      (fun a b ↦ compare b.tombstone a.tombstone) (compareLex (compareOn modified)
        (compareLex (compareOn collection) (compareOn payload)))) := rfl

instance : Std.TransCmp canonicalOrder := by
  have vectors : Std.TransCmp fun a b : Version ↦ a.vector.canonicalOrder b.vector :=
    { eq_swap := Std.OrientedCmp.eq_swap, isLE_trans := Std.TransCmp.isLE_trans }
  have tombstones : Std.TransCmp fun a b : Version ↦ compare b.tombstone a.tombstone :=
    { eq_swap := Std.OrientedCmp.eq_swap, isLE_trans := fun h h' ↦ Std.TransCmp.isLE_trans h' h }
  rw [canonicalOrder_eq_compareLex]
  infer_instance

theorem vector_eq_of_canonicalOrder_eq {a b : Version} (h : canonicalOrder a b = .eq) :
    a.vector = b.vector :=
  VersionVector.eq_of_canonicalOrder_eq (Ordering.then_eq_eq.1 h).1

/-- Two members of an antichain with equal vectors are the same. -/
theorem eq_of_pairwise_concurrent {vs : List Version}
    (hs : vs.Pairwise fun v w ↦ v.relate w = .concurrent) {v w : Version} (hv : v ∈ vs)
    (hw : w ∈ vs) (h : v.vector = w.vector) : v = w := by
  have symm : Std.Symm fun v w : Version ↦ v.relate w = .concurrent :=
    ⟨fun _ _ ↦ relate_concurrent_comm.1⟩
  by_contra hne
  exact (relate_eq_concurrent_iff.1 (hs.forall hv hw hne)).1 h.le

end Version

namespace Conflict

variable {a b : Conflict}

theorem pairwise_canonical (c : Conflict) :
    c.canonical.Pairwise fun v w ↦ (v.canonicalOrder w).isLE = true := by
  refine List.pairwise_mergeSort (fun _ _ _ ↦ Std.TransCmp.isLE_trans) (fun v w ↦ ?_) c.members
  by_cases hvw : (v.canonicalOrder w).isLE
  · rw [hvw, Bool.true_or]
  · rw [Std.OrientedCmp.lt_of_not_isLE hvw, Bool.or_eq_true]
    exact .inr rfl

theorem canonical_eq_of_perm (ha : a.isAntichain = true) (h : a.members.Perm b.members) :
    a.canonical = b.canonical := by
  have hperm : a.canonical.Perm b.canonical :=
    a.canonical_perm.trans (h.trans b.canonical_perm.symm)
  refine hperm.eq_of_pairwise (fun v w hv hw hvw hwv ↦ ?_) a.pairwise_canonical b.pairwise_canonical
  -- Members that the order does not tell apart have equal vectors.
  have hvec := Version.vector_eq_of_canonicalOrder_eq (Std.OrientedCmp.isLE_antisymm hvw hwv)
  have hmem : w ∈ a.members := h.mem_iff.2 (b.canonical_perm.mem_iff.1 hw)
  exact Version.eq_of_pairwise_concurrent (isAntichain_iff.1 ha)
    (a.canonical_perm.mem_iff.1 hv) hmem hvec

theorem sameMembers_iff (ha : a.isAntichain = true) :
    a.sameMembers b = true ↔ a.id = b.id ∧ a.members.Perm b.members := by
  refine ⟨sameMembers_perm, fun ⟨hid, hperm⟩ ↦ ?_⟩
  rw [sameMembers, hid, canonical_eq_of_perm ha hperm]
  simp

theorem fingerprint_eq_of_perm (ha : a.isAntichain = true) (h : a.members.Perm b.members) :
    a.fingerprint = b.fingerprint := by
  rw [fingerprint, fingerprint, canonical_eq_of_perm ha h, size, size, h.length_eq]

end Conflict

end CausalReplica
