import CausalReplica.Proofs.Conflict
import CausalReplica.Verdict

/-!
# What a verdict says

The verdict on a version compares it with each version that is known of its document. It is accepted
when it is above all of them and rejected when one of them covers it. Otherwise it is a member of a
sound conflict that covers all of them.

The steps that lead to a verdict never end at a fault. The walk over the members of a conflict finds
a reason exactly if some member covers the version, so behind it the version is inserted, and it is
the last member then.
-/

namespace CausalReplica

namespace Known

def versions : Known → List Version
  | .clean stored => stored.toList
  | .conflicted c => c.members

/-- What is known are checked versions of the document, and a conflict of them is sound. -/
def Sound (document : String) : Known → Prop
  | .clean stored => ∀ v, stored = some v → v.id = document ∧ v.check = .ok ()
  | .conflicted c => c.id = document ∧ c.Sound

end Known

namespace Verdict

/-- What a verdict on `v` says about the versions `known`. -/
inductive Holds (known : List Version) (v : Version) : Verdict → Prop
  | accept (above : ∀ w ∈ known, w.vector < v.vector) : Holds known v (.accept v)
  | reject (reason : Rejection) (below : ∃ w ∈ known, v.vector ≤ w.vector) :
    Holds known v (.reject reason)
  | conflict (c : Conflict) (sound : c.Sound) (id : c.id = v.id) (mem : v ∈ c.members)
    (covers : ∀ w ∈ known, ∃ m ∈ c.members, w.vector ≤ m.vector) (nonempty : known ≠ []) :
    Holds known v (.conflict c)

theorem againstStored_holds {existing v : Version} (hid : existing.id = v.id)
    (he : existing.check = .ok ()) (hv : v.check = .ok ()) :
    (againstStored existing v).Holds [existing] v := by
  rw [againstStored]
  split <;> rename_i h <;> rw [Version.relate] at h
  · rw [VersionVector.relate_eq_dominates_iff] at h
    exact .accept (by simpa using h)
  · rw [VersionVector.relate_eq_dominated_iff] at h
    exact .reject _ ⟨existing, List.mem_singleton_self _, h.le⟩
  · rw [VersionVector.relate_eq_equal_iff] at h
    exact .reject _ ⟨existing, List.mem_singleton_self _, h.le⟩
  · have hconc : existing.relate v = .concurrent := Version.relate_concurrent_comm.1 h
    have hsound := Conflict.Sound.pair ⟨rfl, he⟩ ⟨hid.symm, hv⟩ hconc
    refine .conflict _ hsound hid (by simp) (fun w hw ↦ ?_) (by simp)
    obtain rfl := List.mem_singleton.1 hw
    exact ⟨w, by simp, le_rfl⟩

theorem rejection?_eq_none {c : Conflict} {v : Version} (h : rejection? c v = none) :
    ∀ m ∈ c.members, ¬v.vector ≤ m.vector := by
  intro m hm hle
  rw [rejection?] at h
  split at h
  · simp at h
  · rename_i heq
    split at h
    · simp at h
    · rename_i hlt
      rw [List.any_eq_true] at heq hlt
      rcases hle.lt_or_eq with hle | hle
      · exact hlt ⟨m, hm, decide_eq_true (VersionVector.relate_eq_dominated_iff.2 hle)⟩
      · exact heq ⟨m, hm, decide_eq_true (VersionVector.relate_eq_equal_iff.2 hle)⟩

theorem rejection?_eq_some {c : Conflict} {v : Version} {reason : Rejection}
    (h : rejection? c v = some reason) : ∃ m ∈ c.members, v.vector ≤ m.vector := by
  rw [rejection?] at h
  split at h
  · rename_i heq
    obtain ⟨m, hm, hrel⟩ := List.any_eq_true.1 heq
    rw [decide_eq_true_iff, Version.relate, VersionVector.relate_eq_equal_iff] at hrel
    exact ⟨m, hm, hrel.le⟩
  · split at h
    · rename_i hlt
      obtain ⟨m, hm, hrel⟩ := List.any_eq_true.1 hlt
      rw [decide_eq_true_iff, Version.relate, VersionVector.relate_eq_dominated_iff] at hrel
      exact ⟨m, hm, hrel.le⟩
    · simp at h

/-- After the rejections are ruled out no member covers the version, so it is inserted. It is alone
then exactly when it dominates all members. -/
theorem amongConflict_holds {c : Conflict} {v : Version} (hc : c.Sound) (hid : c.id = v.id)
    (hv : v.check = .ok ()) : (amongConflict c v).Holds c.members v := by
  rw [amongConflict]
  split <;> rename_i hrej
  · exact .reject _ (rejection?_eq_some hrej)
  · have hnot := rejection?_eq_none hrej
    rw [Conflict.insert_of_not_covered hnot]
    split <;> rename_i hins
    · simp at hins
    · obtain ⟨-, rfl⟩ := Conflict.Insertion.inserted.inj hins
      split <;> rename_i hsize
      · obtain ⟨m, hm⟩ := hc.exists_member
        have hsound : Conflict.Sound ⟨c.id, c.kept v ++ [v]⟩ := by
          refine ⟨hsize, fun w hw ↦ ?_, ?_⟩
          · rcases List.mem_append.1 hw with hw | hw
            · exact hc.member w (Conflict.mem_kept.1 hw).1
            · obtain rfl := List.mem_singleton.1 hw
              exact ⟨hid.symm, hv⟩
          · exact Conflict.isAntichain_iff.2 (Conflict.pairwise_kept_append hc.antichain hnot)
        exact .conflict _ hsound hid (by simp) (fun w hw ↦ Conflict.exists_le_of_mem hw)
          (List.ne_nil_of_mem hm)
      · refine .accept fun w hw ↦ ?_
        by_contra hlt
        have hmem : w ∈ c.kept v := Conflict.mem_kept.2 ⟨hw, hlt⟩
        have hpos := List.length_pos_of_mem hmem
        rw [Conflict.size, List.length_append, List.length_singleton] at hsize
        omega

theorem judge_holds {known : Known} {v : Version} (hk : known.Sound v.id)
    (hv : v.check = .ok ()) : (judge v known).Holds known.versions v := by
  match known with
  | .clean none => exact .accept (by simp [Known.versions])
  | .clean (some existing) =>
    obtain ⟨hid, he⟩ := hk existing rfl
    exact againstStored_holds hid he hv
  | .conflicted c => exact amongConflict_holds hk.2 hk.1 hv

/-- A version that some known version covers is rejected, whatever else is known. -/
theorem judge_of_covered {known : Known} {v : Version}
    (h : ∃ w ∈ known.versions, v.vector ≤ w.vector) :
    ∃ reason, judge v known = .reject reason := by
  obtain ⟨w, hw, hle⟩ := h
  match known with
  | .clean none => simp [Known.versions] at hw
  | .clean (some existing) =>
    obtain rfl := List.mem_singleton.1 hw
    rw [judge, againstStored, Version.relate]
    rcases hle.lt_or_eq with hlt | heq
    · rw [VersionVector.relate_eq_dominated_iff.2 hlt]
      exact ⟨_, rfl⟩
    · rw [VersionVector.relate_eq_equal_iff.2 heq]
      exact ⟨_, rfl⟩
  | .conflicted c =>
    rw [judge, amongConflict]
    cases hrej : rejection? c v with
    | some reason => exact ⟨reason, rfl⟩
    | none => exact absurd hle (rejection?_eq_none hrej w hw)

/-! ## Step by step -/

/-- An equal member counts wherever it stands, and a dominating one if there is no equal member. -/
theorem scan_eq (v : Version) (reason : Option Rejection) (ms : List Version) :
    scan v reason ms =
      if ms.any fun m ↦ v.relate m = .equal then some .alreadyApplied
      else if ms.any fun m ↦ v.relate m = .dominated then some .dominated
      else reason := by
  induction ms generalizing reason with
  | nil => rfl
  | cons m ms ih =>
    rw [scan, List.any_cons, List.any_cons]
    cases h : v.relate m with
    | equal => rfl
    | dominated =>
      dsimp only
      rw [ih, ite_self]
      rfl
    | dominates => exact ih reason
    | concurrent => exact ih reason

theorem attempt_eq_judge (v : Version) (known : Known) :
    attempt v known = .ok (judge v known) := by
  match known with
  | .clean none => rfl
  | .clean (some existing) =>
    rw [attempt, judge, againstStored]
    cases h : v.relate existing with
    | concurrent =>
      dsimp only
      rw [Conflict.pair, if_pos (Version.relate_concurrent_comm.1 h)]
      rfl
    | _ => rfl
  | .conflicted c =>
    have hscan : scan v none c.members = rejection? c v := scan_eq v none c.members
    rw [attempt, judge, amongConflict, hscan]
    cases hrej : rejection? c v with
    | some reason => rfl
    | none =>
      rw [Conflict.insert_of_not_covered (rejection?_eq_none hrej)]
      dsimp only
      rw [ofGrown, List.getLast?_concat]
      split <;> rfl

end Verdict

end CausalReplica
