import CausalReplica.Proofs.Conflict
import CausalReplica.Resolution

/-!
# Resolved versions

Whatever the policy is and whatever a script answers, a sound conflict is resolved by a version of
its document that passes its check and carries the merge of all members' vectors. So a resolved
version dominates everything that it replaces.
-/

namespace CausalReplica

/-- A resolution that may replace the conflict: it leaves the conflict open, or it is a version of
the document with the merge of the members' vectors. -/
inductive Resolution.Fits (c : Conflict) : Resolution → Prop
  | unresolved (reason : Unresolved) : Fits c (.unresolved reason)
  | resolved (v : Version) (id : v.id = c.id) (check : v.check = .ok ())
      (vector : v.vector = c.mergedVector) : Fits c (.resolved v)

theorem Resolution.ofWinner_eq_resolved_iff {winner : Option Version} {v : Version} :
    ofWinner winner = .resolved v ↔ winner = some v := by
  cases winner <;> simp [ofWinner]

/-- Scripts decide nothing before they have been asked. -/
theorem Resolution.exists_unresolved_of_plan {byCollection : Dict String String} {c : Conflict}
    {resolution : Resolution} (h : plan (.scripts byCollection) c = .settled resolution) :
    ∃ reason, resolution = .unresolved reason := by
  rw [plan] at h
  split at h
  · exact ⟨_, (Plan.settled.inj h).symm⟩
  · split at h
    · exact ⟨_, (Plan.settled.inj h).symm⟩
    · split at h
      · exact ⟨_, (Plan.settled.inj h).symm⟩
      · simp at h

namespace Conflict.Sound

variable {c : Conflict}

theorem id_ne (h : c.Sound) : c.id ≠ "" := by
  obtain ⟨m, hm⟩ := h.exists_member
  obtain ⟨hid, hcheck⟩ := h.member m hm
  exact hid ▸ (Version.check_eq_ok_iff.1 hcheck).1

theorem mergedVector_ne_bot (h : c.Sound) : c.mergedVector ≠ ⊥ := by
  obtain ⟨m, hm⟩ := h.exists_member
  exact (bot_le.trans_lt (h.lt_mergedVector hm)).ne'

/-- A member with the merge of all vectors may replace the conflict. -/
theorem fits_ofWinner (h : c.Sound) {winner : Option Version}
    (hw : ∀ v, winner = some v → v ∈ c.members) :
    (Resolution.ofWinner (winner.map c.restamped)).Fits c := by
  cases winner with
  | none => exact .unresolved _
  | some v =>
    obtain ⟨hid, hcheck⟩ := h.member v (hw v rfl)
    obtain ⟨hne, hpayload, -⟩ := Version.check_eq_ok_iff.1 hcheck
    exact .resolved _ hid
      (Version.check_eq_ok_iff.2 ⟨hne, hpayload, h.mergedVector_ne_bot⟩) rfl

theorem fits_resolveToLatest (h : c.Sound) :
    (Resolution.ofWinner c.resolveToLatest?).Fits c :=
  h.fits_ofWinner fun _ hv ↦ (Version.mem_of_latest? hv).1

theorem fits_resolveToTombstone (h : c.Sound) :
    (Resolution.ofWinner c.resolveToTombstone?).Fits c := by
  refine h.fits_ofWinner fun v hv ↦ ?_
  cases ht : Version.latest? (c.members.filter (·.tombstone)) with
  | some w =>
    rw [ht] at hv
    obtain rfl := Option.some.inj hv
    exact (List.mem_filter.1 (Version.mem_of_latest? ht).1).1
  | none =>
    rw [ht] at hv
    exact (Version.mem_of_latest? hv).1

theorem fits_of_plan (h : c.Sound) {p : Policy} {resolution : Resolution}
    (hp : Resolution.plan p c = .settled resolution) : resolution.Fits c := by
  cases p with
  | none => cases hp; exact .unresolved _
  | latest => cases hp; exact h.fits_resolveToLatest
  | tombstone => cases hp; exact h.fits_resolveToTombstone
  | scripts byCollection =>
    obtain ⟨reason, rfl⟩ := Resolution.exists_unresolved_of_plan hp
    exact .unresolved reason

theorem fits_ofResult (h : c.Sound) (request : Script.Request) (result : Script.Result) :
    (Resolution.ofResult c request result).Fits c := by
  have hcheck : ∀ v : Version, v.id = c.id → (v.tombstone = true → v.payload = []) →
      v.vector = c.mergedVector → v.check = .ok () := fun v hid hpayload hvec ↦
    Version.check_eq_ok_iff.2 ⟨hid ▸ h.id_ne, hpayload, hvec ▸ h.mergedVector_ne_bot⟩
  match result with
  | .ok (.document _) =>
    exact .resolved _ rfl (hcheck _ rfl (by simp [Version.document]) rfl) rfl
  | .ok .tombstone => exact .resolved _ rfl (hcheck _ rfl (by simp [Version.deleted]) rfl) rfl
  | .ok .noResult => exact .unresolved _
  | .error (.timedOut ..) => exact .unresolved _
  | .error (.failed ..) => exact .unresolved _
  | .error (.unavailable ..) => exact .unresolved _

/-- Whatever the policy is and whatever a script answers, the resolution may replace the
conflict. -/
theorem fits_resolve (h : c.Sound) (r : Resolver) (call : Script.Request → Script.Run) :
    (r.resolve call c).Fits c := by
  rw [Resolver.resolve]
  split
  · rename_i resolution hplan
    exact h.fits_of_plan hplan
  · exact h.fits_ofResult _ _

end Conflict.Sound

end CausalReplica
