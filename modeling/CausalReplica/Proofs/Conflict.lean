import CausalReplica.Conflict.Registry
import CausalReplica.Proofs.Version
import Mathlib.Data.List.Perm.Basic

/-!
# Conflicts as antichains

A conflict that a replica may record has at least two members, all of them versions of its document,
and no two of them are ordered. Such a conflict is strictly below the merge of its members' vectors:
for every member there is another one that it does not cover.

Inserting keeps the antichain. What leaves the conflict is dominated by the version that comes in,
so whatever was covered before is covered afterwards.
-/

namespace CausalReplica

namespace Version

theorem pairwiseConcurrent_iff {vs : List Version} :
    pairwiseConcurrent vs = true ↔ vs.Pairwise fun v w ↦ v.relate w = .concurrent := by
  induction vs with
  | nil => simp [pairwiseConcurrent]
  | cons v vs ih =>
    rw [pairwiseConcurrent, Bool.and_eq_true, ih, List.all_eq_true, List.pairwise_cons]
    simp only [decide_eq_true_eq]

/-- Of two versions or more, of which no two are ordered, some is not covered by a given one. -/
theorem exists_not_le_of_pairwise {vs : List Version} (hlen : 2 ≤ vs.length)
    (hs : vs.Pairwise fun v w ↦ v.relate w = .concurrent) {v : Version} (hv : v ∈ vs) :
    ∃ w ∈ vs, ¬w.vector ≤ v.vector := by
  match vs, hlen with
  | a :: b :: rest, _ =>
    -- The first version is concurrent with every other one, the second among them.
    obtain ⟨ha, -⟩ := List.pairwise_cons.1 hs
    rcases List.mem_cons.1 hv with rfl | hv
    · exact ⟨b, by simp, (relate_eq_concurrent_iff.1 (ha b List.mem_cons_self)).2⟩
    · exact ⟨a, List.mem_cons_self, (relate_eq_concurrent_iff.1 (ha v hv)).1⟩

end Version

namespace Conflict

theorem isAntichain_iff {c : Conflict} :
    c.isAntichain = true ↔ c.members.Pairwise fun v w ↦ v.relate w = .concurrent :=
  Version.pairwiseConcurrent_iff

/-- A conflict that is fit to be recorded for its document. -/
structure Sound (c : Conflict) : Prop where
  /-- There are at least two members. -/
  two_le_size : 2 ≤ c.size
  /-- The members are versions of the document, and they pass their check. -/
  member : ∀ m ∈ c.members, m.id = c.id ∧ m.check = .ok ()
  /-- No two members are ordered. -/
  antichain : c.isAntichain = true

theorem Sound.pair {id : String} {v w : Version} (hv : v.id = id ∧ v.check = .ok ())
    (hw : w.id = id ∧ w.check = .ok ()) (h : v.relate w = .concurrent) : Sound ⟨id, [v, w]⟩ := by
  refine ⟨le_rfl, fun m hm ↦ ?_, isAntichain_iff.2 (by simpa using h)⟩
  rcases List.mem_pair.1 hm with rfl | rfl
  · exact hv
  · exact hw

theorem Sound.recordable {c : Conflict} (h : c.Sound) : c.recordable = .ok () := by
  rw [Conflict.recordable, if_neg (Nat.not_lt.2 h.two_le_size), if_pos h.antichain]

theorem Sound.record {c : Conflict} (h : c.Sound) (r : Registry) :
    r.record c = .ok ⟨r.conflicts.insert c.id c⟩ := by
  rw [Registry.record, h.recordable]
  rfl

theorem Sound.exists_member {c : Conflict} (h : c.Sound) : ∃ m, m ∈ c.members :=
  List.exists_mem_of_length_pos (Nat.lt_of_lt_of_le Nat.two_pos h.two_le_size)

/-! ## The merge of all vectors -/

theorem mergedVector_le_iff {c : Conflict} {w : VersionVector} :
    c.mergedVector ≤ w ↔ ∀ m ∈ c.members, m.vector ≤ w := by
  rw [mergedVector, VersionVector.mergeAll_le_iff, List.forall_mem_map]

theorem le_mergedVector {c : Conflict} {m : Version} (h : m ∈ c.members) :
    m.vector ≤ c.mergedVector := mergedVector_le_iff.1 le_rfl m h

theorem mergedVector_pair (id : String) (v w : Version) :
    (Conflict.mk id [v, w]).mergedVector = v.vector ⊔ w.vector := by
  refine eq_of_forall_ge_iff fun u ↦ ?_
  rw [mergedVector_le_iff, sup_le_iff]
  simp

theorem Sound.lt_mergedVector {c : Conflict} (h : c.Sound) {m : Version} (hm : m ∈ c.members) :
    m.vector < c.mergedVector := by
  refine lt_of_le_not_ge (le_mergedVector hm) fun hle ↦ ?_
  obtain ⟨w, hw, hwm⟩ :=
    Version.exists_not_le_of_pairwise h.two_le_size (isAntichain_iff.1 h.antichain) hm
  exact hwm ((le_mergedVector hw).trans hle)

/-! ## Collections -/

/-- Tombstones may be in any collection. -/
theorem hasMixedCollections_iff {c : Conflict} :
    c.hasMixedCollections = true ↔ ∃ v ∈ c.members, ∃ w ∈ c.members,
      v.tombstone = false ∧ w.tombstone = false ∧ v.collection ≠ w.collection := by
  have hlive : ∀ v, v ∈ c.members.filter (!·.tombstone) ↔ v ∈ c.members ∧ v.tombstone = false :=
    fun v ↦ by rw [List.mem_filter, Bool.not_eq_true']
  rw [hasMixedCollections]
  split <;> rename_i hl
  · rename_i first rest
    simp only [hl] at hlive
    obtain ⟨hfirst, hfirstlive⟩ := (hlive first).1 List.mem_cons_self
    rw [List.any_eq_true]
    constructor
    · rintro ⟨v, hv, hne⟩
      obtain ⟨hmem, hvlive⟩ := (hlive v).1 (List.mem_cons_of_mem _ hv)
      exact ⟨v, hmem, first, hfirst, hvlive, hfirstlive, by simpa using hne⟩
    · rintro ⟨v, hv, w, hw, hvlive, hwlive, hne⟩
      -- One of the two is in another collection than the first live member.
      have hother : ∀ x ∈ c.members, x.tombstone = false → x.collection ≠ first.collection →
          ∃ m ∈ rest, (m.collection != first.collection) = true := by
        intro x hx hxlive hdiffers
        rcases List.mem_cons.1 ((hlive x).2 ⟨hx, hxlive⟩) with rfl | hxrest
        · exact absurd rfl hdiffers
        · exact ⟨x, hxrest, bne_iff_ne.2 hdiffers⟩
      by_cases hfirst : v.collection = first.collection
      · exact hother w hw hwlive (hfirst ▸ hne.symm)
      · exact hother v hv hvlive hfirst
  · simp only [hl] at hlive
    refine ⟨fun h ↦ absurd h Bool.false_ne_true, fun ⟨v, hv, _, _, hvlive, _⟩ ↦ ?_⟩
    exact absurd ((hlive v).2 ⟨hv, hvlive⟩) List.not_mem_nil

/-! ## Canonical order -/

theorem canonical_perm (c : Conflict) : c.canonical.Perm c.members := List.mergeSort_perm _ _

theorem sameMembers_perm {a b : Conflict} (h : a.sameMembers b = true) :
    a.id = b.id ∧ a.members.Perm b.members := by
  rw [sameMembers, Bool.and_eq_true, decide_eq_true_iff, decide_eq_true_iff] at h
  refine ⟨h.1, a.canonical_perm.symm.trans ?_⟩
  rw [h.2]
  exact b.canonical_perm

/-! ## Inserting -/

/-- The members that stay when a version joins the conflict. -/
def kept (c : Conflict) (incoming : Version) : List Version :=
  c.members.filter fun m ↦ incoming.relate m != .dominates

theorem mem_kept {c : Conflict} {v m : Version} :
    m ∈ c.kept v ↔ m ∈ c.members ∧ ¬m.vector < v.vector := by
  rw [kept, List.mem_filter, ← VersionVector.relate_eq_dominates_iff, bne_iff_ne, ne_eq,
    Version.relate]

theorem insert_of_covered {c : Conflict} {v : Version}
    (h : ∃ m ∈ c.members, v.vector ≤ m.vector) : c.insert v = .covered := by
  rw [insert, if_pos]
  rw [List.any_eq_true]
  obtain ⟨m, hm, hle⟩ := h
  exact ⟨m, hm, VersionVector.covers_iff.2 hle⟩

theorem insert_of_not_covered {c : Conflict} {v : Version}
    (h : ∀ m ∈ c.members, ¬v.vector ≤ m.vector) :
    c.insert v = .inserted (c.size - (c.kept v).length) ⟨c.id, c.kept v ++ [v]⟩ := by
  rw [insert, if_neg]
  · rfl
  · rw [List.any_eq_true]
    rintro ⟨m, hm, hle⟩
    exact h m hm (VersionVector.covers_iff.1 hle)

/-- Every member is covered after an insertion: it stays, or the version that came in dominates
it. -/
theorem exists_le_of_mem {c : Conflict} {v m : Version} (hm : m ∈ c.members) :
    ∃ w ∈ c.kept v ++ [v], m.vector ≤ w.vector := by
  by_cases h : m.vector < v.vector
  · exact ⟨v, by simp, h.le⟩
  · exact ⟨m, List.mem_append_left _ (mem_kept.2 ⟨hm, h⟩), le_rfl⟩

theorem relate_of_mem_kept {c : Conflict} {v m : Version}
    (h : ∀ m ∈ c.members, ¬v.vector ≤ m.vector) (hm : m ∈ c.kept v) :
    m.relate v = .concurrent := by
  obtain ⟨hmem, hlt⟩ := mem_kept.1 hm
  exact Version.relate_eq_concurrent_iff.2
    ⟨fun hle ↦ hlt (lt_of_le_not_ge hle (h m hmem)), h m hmem⟩

theorem pairwise_kept_append {c : Conflict} {v : Version} (hc : c.isAntichain = true)
    (h : ∀ m ∈ c.members, ¬v.vector ≤ m.vector) :
    (c.kept v ++ [v]).Pairwise fun v w ↦ v.relate w = .concurrent := by
  refine List.pairwise_append.2 ⟨(isAntichain_iff.1 hc).filter _, List.pairwise_singleton _ _, ?_⟩
  intro m hm w hw
  obtain rfl := List.mem_singleton.1 hw
  exact relate_of_mem_kept h hm

end Conflict

end CausalReplica
