import CausalReplica.Proofs.Conflict
import CausalReplica.Proofs.JsonForms

/-!
# Which conflicts hold ordered members

Inserting a version makes no ordered pair: the version is refused if a member covers it, and the
members that it dominates leave. So two members that are ordered after any number of insertions were
members before the first one, in the same order. This is the invariant of the induction over the
versions that are inserted, and it needs nothing of the conflict that the insertions start from.

A conflict that was built from versions has no ordered pair to start from, since building checks the
members. Reading a conflict from JSON checks nothing about them, so the ordered pairs of a conflict
that was read are those that stand in the JSON.
-/

open scoped List

namespace CausalReplica.Conflict

/-- The conflict was built of two versions or of a list of them. -/
def Built (c : Conflict) : Prop :=
  (∃ v w, pair v w = .ok c) ∨ ∃ id members, ofMembers id members = .ok c

/-- The conflict was read from JSON. -/
def Decoded (c : Conflict) : Prop := ∃ j, ofJson? j = some c

/-! ## Building -/

theorem pair_eq_ok_iff {v w : Version} {c : Conflict} :
    pair v w = .ok c ↔ v.relate w = .concurrent ∧ c = ⟨v.id, [v, w]⟩ := by
  rw [pair]
  split <;> rename_i h <;> simp [h, eq_comm]

theorem ofMembers_eq_ok_iff {id : String} {members : List Version} {c : Conflict} :
    ofMembers id members = .ok c ↔
      Version.pairwiseConcurrent members = true ∧ c = ⟨id, members⟩ := by
  rw [ofMembers]
  split <;> rename_i h <;> simp [h, eq_comm]

theorem Built.isAntichain {c : Conflict} (h : c.Built) : c.isAntichain = true := by
  rcases h with ⟨v, w, h⟩ | ⟨id, members, h⟩
  · obtain ⟨hconcurrent, rfl⟩ := pair_eq_ok_iff.1 h
    exact isAntichain_iff.2 (List.pairwise_pair.2 hconcurrent)
  · obtain ⟨hconcurrent, rfl⟩ := ofMembers_eq_ok_iff.1 h
    exact hconcurrent

/-! ## Inserting -/

theorem relate_of_sublist_after {c : Conflict} {u v w : Version}
    (h : [v, w] <+ (c.after (c.insert u)).members) :
    v.relate w = .concurrent ∨ [v, w] <+ c.members := by
  by_cases hcovered : ∃ m ∈ c.members, u.vector ≤ m.vector
  · rw [insert_of_covered hcovered] at h
    exact Or.inr h
  · push Not at hcovered
    rw [insert_of_not_covered hcovered] at h
    have hstays : ∀ {vs}, vs <+ c.kept u → vs <+ c.members :=
      fun hvs ↦ hvs.trans List.filter_sublist
    obtain ⟨before, last, hsplit, hbefore, hlast⟩ := List.sublist_append_iff.1 h
    rcases List.sublist_singleton.1 hlast with rfl | rfl
    · rw [List.append_nil] at hsplit
      exact Or.inr (hstays (hsplit ▸ hbefore))
    · -- The second of the two is the version that came in, and the first one has stayed.
      obtain ⟨rfl, rfl⟩ : before = [v] ∧ u = w := by
        have hconcat : [v] ++ [w] = before ++ [u] := hsplit
        obtain ⟨hv, hw⟩ := List.append_inj' hconcat rfl
        exact ⟨hv.symm, (List.singleton_inj.1 hw).symm⟩
      exact Or.inl (relate_of_mem_kept hcovered (List.singleton_sublist.1 hbefore))

/-- Two members after any insertions are concurrent, or they were members before all of them. -/
theorem relate_of_sublist_insertAll {c : Conflict} (us : List Version) {v w : Version}
    (h : [v, w] <+ (c.insertAll us).members) :
    v.relate w = .concurrent ∨ [v, w] <+ c.members := by
  induction us generalizing c with
  | nil => exact Or.inr h
  | cons u us ih =>
    rcases ih h with hconcurrent | hafter
    · exact Or.inl hconcurrent
    · exact relate_of_sublist_after hafter

theorem isAntichain_insertAll {c : Conflict} (h : c.isAntichain = true) (us : List Version) :
    (c.insertAll us).isAntichain = true := by
  rw [isAntichain_iff, List.pairwise_iff_forall_sublist] at h ⊢
  intro v w hvw
  rcases relate_of_sublist_insertAll us hvw with hconcurrent | hbefore
  · exact hconcurrent
  · exact h hbefore

/-- However many versions are inserted into it, a conflict that was built has no two ordered
members. In any conflict at all, as it may have been read from JSON, two members that are ordered
after the insertions were members before them; so there are none if there were none to start
from. -/
theorem ordered_members_were_there (c : Conflict) (us : List Version) :
    (c.Built → (c.insertAll us).members.Pairwise fun v w ↦ v.relate w = .concurrent) ∧
    (∀ v w, [v, w] <+ (c.insertAll us).members →
      v.relate w = .concurrent ∨ [v, w] <+ c.members) ∧
    (c.members.Pairwise (fun v w ↦ v.relate w = .concurrent) →
      (c.insertAll us).members.Pairwise fun v w ↦ v.relate w = .concurrent) := by
  refine ⟨fun hbuilt ↦ ?_, fun v w ↦ relate_of_sublist_insertAll us, fun hpairwise ↦ ?_⟩
  · exact isAntichain_iff.1 (isAntichain_insertAll hbuilt.isAntichain us)
  · exact isAntichain_iff.1 (isAntichain_insertAll (isAntichain_iff.2 hpairwise) us)

/-- A version of one document by the first node, and one by the second. -/
def crossing : List Version :=
  [.document "d" "Users" [1] (.authored (.ofByte 1)) 1,
    .document "d" "Users" [2] (.authored (.ofByte 2)) 2]

/-- A version of one document by the first node, and one that the third node wrote on top of it. -/
def succession : List Version :=
  let first : VersionVector := .authored (.ofByte 1)
  [.document "d" "Users" [1] first 1,
    .document "d" "Users" [3] (first.merge (.authored (.ofByte 3))) 3]

/-- Of two crossing versions the first one leaves when its successor is inserted. -/
theorem ordered_members_were_there_crossing :
    Built ⟨"d", crossing⟩ ∧
    (insertAll ⟨"d", crossing⟩ succession).members = [crossing[1], succession[1]] ∧
    ((insertAll ⟨"d", crossing⟩ succession).members.Pairwise fun v w ↦ v.relate w = .concurrent) ∧
    (crossing[1].relate succession[1] = .concurrent ∨
      [crossing[1], succession[1]] <+ crossing) := by
  have hbuilt : Built ⟨"d", crossing⟩ := Or.inr ⟨"d", crossing, by decide⟩
  have hmembers :
      (insertAll ⟨"d", crossing⟩ succession).members = [crossing[1], succession[1]] := by decide
  have hpairwise := isAntichain_iff.1 hbuilt.isAntichain
  obtain ⟨-, hthere, hkept⟩ := ordered_members_were_there ⟨"d", crossing⟩ succession
  exact ⟨hbuilt, hmembers, hkept hpairwise, hthere _ _ (by rw [hmembers])⟩

/-- Two ordered versions are read as a conflict. -/
theorem decoded_members_ordered :
    ¬∀ c : Conflict, c.Built ∨ c.Decoded → ∀ us,
      (c.insertAll us).members.Pairwise fun v w ↦ v.relate w = .concurrent := by
  intro h
  have hfits : ∀ v ∈ succession, v.vector ≠ ⊥ ∧ v.vector.FitsWire := by decide
  have hdecoded : Decoded ⟨"d", succession⟩ := ⟨toJson ⟨"d", succession⟩, ofJson?_toJson hfits⟩
  have hordered : isAntichain ⟨"d", succession⟩ = false := by decide
  have hantichain := isAntichain_iff.2 (h ⟨"d", succession⟩ (Or.inr hdecoded) [])
  exact Bool.false_ne_true (hordered.symm.trans hantichain)

end CausalReplica.Conflict
