import CausalReplica.Proofs.Frontier

/-!
# What insertions leave in a conflict

Each version that is offered to a conflict is compared with the members of that moment. Members that
it dominates are forgotten, and with them goes what they were compared with. Nothing is lost by
this: the members are the frontier of all versions that were members or offers up to then, since a
version that is covered by a forgotten member is covered by the one that took its place.

The invariant of the induction over the offers is that the members are the frontier of the versions
so far. One more version changes a frontier in the way in which an insertion changes the members.
-/

namespace CausalReplica

theorem Version.frontier_of_pairwise {vs : List Version}
    (h : vs.Pairwise fun v w ↦ v.relate w = .concurrent) : frontier vs = vs := by
  have hfirsts : firsts vs = vs := by
    induction vs with
    | nil => rfl
    | cons v vs ih =>
      obtain ⟨hv, hvs⟩ := List.pairwise_cons.1 h
      rw [firsts, ih hvs, List.filter_eq_self.2]
      intro w hw
      have hnot := (relate_eq_concurrent_iff.1 (hv w hw)).2
      exact decide_eq_true fun heq ↦ hnot heq.le
  have symm : Std.Symm fun v w : Version ↦ v.relate w = .concurrent :=
    ⟨fun _ _ ↦ relate_concurrent_comm.1⟩
  rw [frontier, hfirsts, List.filter_eq_self]
  intro v hv
  rw [List.all_eq_true]
  intro w hw
  rw [decide_eq_true_iff, ne_eq, relate_eq_dominates_iff]
  intro hlt
  have hne : v ≠ w := fun hvw ↦ hlt.ne (hvw ▸ rfl)
  exact (relate_eq_concurrent_iff.1 (h.forall hv hw hne)).1 hlt.le

namespace Conflict

variable {c : Conflict} {v : Version} {vs : List Version}

/-! ## One insertion -/

theorem exists_covering_iff : (∃ m ∈ c.members, m.relate v = .dominates ∨ m.relate v = .equal) ↔
    ∃ m ∈ c.members, v.vector ≤ m.vector := by
  refine exists_congr fun m ↦ and_congr_right fun _ ↦ ?_
  rw [Version.relate_eq_dominates_iff, Version.relate, VersionVector.relate_eq_equal_iff,
    le_iff_lt_or_eq, eq_comm (a := v.vector)]

theorem size_sub_length_kept (c : Conflict) (v : Version) :
    c.size - (c.kept v).length = c.members.countP fun m ↦ v.relate m = .dominates := by
  have hsplit := List.length_eq_countP_add_countP (fun m ↦ decide (v.relate m = .dominates))
    (l := c.members)
  have hkept : (c.kept v).length = c.members.countP fun m ↦ ¬v.relate m = .dominates := by
    rw [kept, ← List.countP_eq_length_filter]
    exact List.countP_congr fun m _ ↦ by simp
  rw [hkept, size]
  simp only [decide_eq_true_eq] at hsplit
  omega

/-- What the call for one version answers, and the conflict after it. -/
theorem insert_eq (c : Conflict) (v : Version) :
    (c.insert v, c.after (c.insert v)) =
      if ∃ m ∈ c.members, m.relate v = .dominates ∨ m.relate v = .equal then (.covered, c)
      else
        (.inserted (c.members.countP fun m ↦ v.relate m = .dominates) (c.after (c.insert v)),
          c.after (c.insert v)) := by
  split <;> rename_i h <;> rw [exists_covering_iff] at h
  · rw [insert_of_covered h]
    rfl
  · push Not at h
    rw [insert_of_not_covered h, size_sub_length_kept]
    rfl

theorem id_after_insert (c : Conflict) (v : Version) : (c.after (c.insert v)).id = c.id := by
  by_cases h : ∃ m ∈ c.members, v.vector ≤ m.vector
  · rw [insert_of_covered h]
    rfl
  · push Not at h
    rw [insert_of_not_covered h]
    rfl

/-- One more version changes the members as it changes the frontier. -/
theorem members_after_insert (h : c.members = Version.frontier vs) (v : Version) :
    (c.after (c.insert v)).members = Version.frontier (vs ++ [v]) := by
  have hcovered : (∃ m ∈ c.members, v.vector ≤ m.vector) ↔ ∃ w ∈ vs, v.vector ≤ w.vector := by
    rw [h, Version.exists_le_frontier_iff]
  by_cases hv : ∃ w ∈ vs, v.vector ≤ w.vector
  · rw [insert_of_covered (hcovered.2 hv), Version.frontier_concat_of_covered hv]
    exact h
  · have hnew := mt hcovered.1 hv
    push Not at hnew
    rw [insert_of_not_covered hnew, Version.frontier_concat_of_new hv, ← h]
    rfl

/-! ## Insertions in turn -/

theorem id_insertAll (c : Conflict) (vs : List Version) : (c.insertAll vs).id = c.id := by
  induction vs generalizing c with
  | nil => rfl
  | cons v vs ih => exact (ih _).trans (c.id_after_insert v)

theorem members_insertAll (h : c.members = Version.frontier vs) (ws : List Version) :
    (c.insertAll ws).members = Version.frontier (vs ++ ws) := by
  induction ws generalizing c vs with
  | nil => rw [List.append_nil]; exact h
  | cons w ws ih =>
    have hstep := ih (members_after_insert h w)
    rw [List.append_assoc] at hstep
    exact hstep

theorem getElem?_insertEach (c : Conflict) {vs : List Version} {i : ℕ} (h : vs[i]? = some v) :
    (c.insertEach vs)[i]? =
      some ((c.insertAll (vs.take i)).insert v, c.insertAll (vs.take (i + 1))) := by
  induction vs generalizing c i with
  | nil => simp at h
  | cons w vs ih =>
    cases i with
    | zero =>
      obtain rfl := Option.some.inj h
      rfl
    | succ i => exact ih (c.after (c.insert w)) h

theorem length_insertEach (c : Conflict) (vs : List Version) :
    (c.insertEach vs).length = vs.length := by
  induction vs generalizing c with
  | nil => rfl
  | cons v vs ih => exact congrArg Nat.succ (ih _)

theorem insertAll_take_succ (c : Conflict) {vs : List Version} {i : ℕ} (h : vs[i]? = some v) :
    c.insertAll (vs.take (i + 1)) =
      (c.insertAll (vs.take i)).after ((c.insertAll (vs.take i)).insert v) := by
  rw [List.take_add_one, h, insertAll, List.foldl_append]
  rfl

theorem vectors_insertAll_perm (h : c.members = Version.frontier vs) {ws us : List Version}
    (hsame : ∀ v, v ∈ us ↔ v ∈ ws) :
    ((c.insertAll us).members.map (·.vector)).Perm
      ((c.insertAll ws).members.map (·.vector)) := by
  have hnodup : ∀ ws, ((Version.frontier (vs ++ ws)).map (·.vector)).Nodup := fun ws ↦
    List.pairwise_map.2 (Version.pairwise_frontier _)
  rw [members_insertAll h, members_insertAll h, List.perm_ext_iff_of_nodup (hnodup us) (hnodup ws)]
  refine fun u ↦ Version.mem_vectors_frontier_congr fun v ↦ ?_
  rw [List.mem_append, List.mem_append, hsame]

/-- Versions that are offered to an antichain leave the frontier of all members and offers: in their
order, those that no other one dominates and that equal no earlier one. A call refuses its version
exactly if a member of that moment dominates or equals it, and changes nothing then; otherwise it
counts the members that leave. Offering the same versions in another order leaves the same
vectors. -/
theorem insertions_leave_frontier (h : c.isAntichain = true) (offers : List Version) :
    (c.insertAll offers).id = c.id ∧
    (c.insertAll offers).members = Version.frontier (c.members ++ offers) ∧
    (c.insertEach offers).length = offers.length ∧
    (∀ i v, offers[i]? = some v →
      let before := c.insertAll (offers.take i)
      let grown := c.insertAll (offers.take (i + 1))
      (c.insertEach offers)[i]? = some
        (if ∃ m ∈ before.members, m.relate v = .dominates ∨ m.relate v = .equal then
          (.covered, before)
        else (.inserted (before.members.countP fun m ↦ v.relate m = .dominates) grown, grown))) ∧
    ∀ reordered : List Version, (∀ v, v ∈ reordered ↔ v ∈ offers) →
      ((c.insertAll reordered).members.map (·.vector)).Perm
        ((c.insertAll offers).members.map (·.vector)) := by
  have hmembers := (Version.frontier_of_pairwise (isAntichain_iff.1 h)).symm
  refine ⟨c.id_insertAll offers, members_insertAll hmembers offers, c.length_insertEach offers,
    fun i v hi ↦ ?_, fun reordered ↦ vectors_insertAll_perm hmembers⟩
  rw [c.getElem?_insertEach hi, c.insertAll_take_succ hi, insert_eq]

/-- A document that two nodes have changed. -/
def changedByTwo : Conflict :=
  ⟨"doc", [.document "doc" "notes" [1] (.authored ⟨1⟩) 4,
    .document "doc" "notes" [2] (.authored ⟨2⟩) 4]⟩

/-- A version that is there already, one of a third node, and one that has seen both of these. -/
def offeredToTwo : List Version :=
  [.document "doc" "notes" [5] (.authored ⟨1⟩) 5, .document "doc" "notes" [3] (.authored ⟨3⟩) 6,
    .document "doc" "notes" [4] ((VersionVector.authored ⟨1⟩).merge (.authored ⟨3⟩)) 7]

/-- The last version takes the place of two members, whether they were there from the beginning or
not. -/
theorem insertions_leave_frontier_changedByTwo :
    (changedByTwo.insertAll offeredToTwo).members =
      [changedByTwo.members[1], offeredToTwo[2]] ∧
    (changedByTwo.insertEach offeredToTwo)[0]? = some (.covered, changedByTwo) ∧
    (changedByTwo.insertEach offeredToTwo)[2]? = some
      (.inserted 2 (changedByTwo.insertAll offeredToTwo),
        changedByTwo.insertAll offeredToTwo) ∧
    ((changedByTwo.insertAll offeredToTwo.reverse).members.map (·.vector)).Perm
      ((changedByTwo.insertAll offeredToTwo).members.map (·.vector)) := by
  obtain ⟨-, hmembers, -, hcalls, hperm⟩ :=
    insertions_leave_frontier (c := changedByTwo) (by decide) offeredToTwo
  refine ⟨hmembers.trans (by decide), (hcalls 0 _ rfl).trans ?_, (hcalls 2 _ rfl).trans ?_,
    hperm _ (by simp)⟩
  · rw [if_pos (by decide)]
    rfl
  · rw [if_neg (by decide)]
    rfl

end Conflict

end CausalReplica
