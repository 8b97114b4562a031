import CausalReplica.Proofs.MemberOrder
import CausalReplica.Replay.Summary

/-!
# When a conflict is unchanged

The result of a script is committed only if the recorded conflict is still the one that the script
was asked about. Between the two the same versions may have been recorded again, in another order.
The check compares hashes, which look at vectors and tombstone flags only, and then the canonical
sequences member by member. The canonical order leaves ids and origins out, so in general the same
members in two orders need not come out as one sequence.

In an antichain the vectors alone fix the sequence. Comparing it compares the members field by field
and in no particular order, and all that is read off the conflicts agrees as well.
-/

namespace CausalReplica

variable {a b : Conflict}

theorem Replay.OpenConflict.ofConflict_eq_of_perm (hid : a.id = b.id) (ha : a.isAntichain = true)
    (h : a.members.Perm b.members) : ofConflict a = ofConflict b := by
  rw [ofConflict, ofConflict, hid, Conflict.canonical_eq_of_perm ha h]

/-- For an antichain the hash tells nothing that the comparison of the members does not tell. -/
theorem Replica.stillRecorded_iff_sameMembers {r : Replica} (hget : r.registry.get? b.id = some a)
    (ha : a.isAntichain = true) : r.stillRecorded b = true ↔ a.sameMembers b = true := by
  rw [stillRecorded_iff]
  constructor
  · rintro ⟨current, hcurrent, -, hsame⟩
    obtain rfl := Option.some.inj (hget.symm.trans hcurrent)
    exact hsame
  · intro hsame
    exact ⟨a, hget, Conflict.fingerprint_eq_of_perm ha (Conflict.sameMembers_perm hsame).2, hsame⟩

/-- The members of an antichain are the same as those of another conflict exactly if they are equal
up to order, in every field. Then all that is read off the two conflicts is equal. So the second
step of resolving a conflict goes on with the resolution if the recorded conflict has another order
of the members at most, and drops the resolution if anything else has changed. -/
theorem same_members_up_to_order (ha : a.isAntichain = true) :
    (a.sameMembers b = true ↔ a.id = b.id ∧ a.members.Perm b.members) ∧
    (a.sameMembers b = true →
      a.fingerprint = b.fingerprint ∧ a.canonical = b.canonical ∧
      a.collection? = b.collection? ∧ a.hasMixedCollections = b.hasMixedCollections ∧
      a.mergedVector = b.mergedVector ∧ a.latestTime? = b.latestTime? ∧
      Replay.OpenConflict.ofConflict a = Replay.OpenConflict.ofConflict b) ∧
    ∀ (on : Conditions) (r : Replica) (resolution : Resolution) (time : Millis),
      r.registry.get? b.id = some a →
      r.commit on b resolution time =
        if a.id = b.id ∧ a.members.Perm b.members then (r.timed time).finish on b resolution
        else ((r.timed time).tick .staleResults, .ok .superseded) := by
  have hiff := Conflict.sameMembers_iff ha (b := b)
  refine ⟨hiff, fun hsame ↦ ?_, fun on r resolution time hget ↦ ?_⟩
  · obtain ⟨hid, hperm⟩ := hiff.1 hsame
    exact ⟨Conflict.fingerprint_eq_of_perm ha hperm, Conflict.canonical_eq_of_perm ha hperm,
      Conflict.collection?_eq_of_perm ha hperm, Conflict.hasMixedCollections_eq_of_perm hperm,
      Conflict.mergedVector_eq_of_perm hperm, Conflict.latestTime?_eq_of_perm hperm,
      Replay.OpenConflict.ofConflict_eq_of_perm hid ha hperm⟩
  · have hcheck : (r.timed time).stillRecorded b = true ↔ a.id = b.id ∧ a.members.Perm b.members :=
      (Replica.stillRecorded_iff_sameMembers hget ha).trans hiff
    rw [Replica.commit]
    simp only [hcheck]

/-- The document of `changedAndMoved`, whose second change another node hands on as its own. -/
def changedAndClaimed : Conflict :=
  ⟨"doc", changedAndMoved.members.set 2
    { changedAndMoved.members[2] with origin := ⟨9⟩ }⟩

/-- The members in reverse are the same. They are not if one of them has another origin, which
neither the hash nor the canonical order looks at; a resolution is dropped then. -/
theorem same_members_up_to_order_changedAndMoved :
    let again : Conflict := ⟨"doc", changedAndMoved.members.reverse⟩
    changedAndMoved.sameMembers again = true ∧
    Replay.OpenConflict.ofConflict changedAndMoved = Replay.OpenConflict.ofConflict again ∧
    changedAndMoved.sameMembers changedAndClaimed = false ∧
    ∀ (on : Conditions) (r : Replica) (resolution : Resolution) (time : Millis),
      r.registry.get? "doc" = some changedAndMoved →
      r.commit on again resolution time = (r.timed time).finish on again resolution ∧
      r.commit on changedAndClaimed resolution time =
        ((r.timed time).tick .staleResults, .ok .superseded) := by
  intro again
  have ha : changedAndMoved.isAntichain = true := by decide
  have hagain : changedAndMoved.id = again.id ∧ changedAndMoved.members.Perm again.members := by
    decide
  have hclaimed : ¬(changedAndMoved.id = changedAndClaimed.id ∧
      changedAndMoved.members.Perm changedAndClaimed.members) := by decide
  obtain ⟨hiff, hequal, hcommit⟩ := same_members_up_to_order ha (b := again)
  obtain ⟨hiff', -, hcommit'⟩ := same_members_up_to_order ha (b := changedAndClaimed)
  have hsame := hiff.2 hagain
  obtain ⟨-, -, -, -, -, -, hreport⟩ := hequal hsame
  refine ⟨hsame, hreport, Bool.eq_false_iff.2 (mt hiff'.1 hclaimed),
    fun on r resolution time hget ↦ ⟨?_, ?_⟩⟩
  · rw [hcommit on r resolution time hget, if_pos hagain]
  · rw [hcommit' on r resolution time hget, if_neg hclaimed]

end CausalReplica
