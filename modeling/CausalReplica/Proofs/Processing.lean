import CausalReplica.Proofs.Canonical
import CausalReplica.Proofs.Settled

/-!
# What a step comes to

A version that is processed is rejected, or it takes the place of all that is known of its document,
or it joins the known versions that it does not dominate in a conflict. A conflict under a policy
without scripts is resolved or left open in the same step. Under a policy with scripts it is
recorded and its call waits; when the call goes on, it commits exactly if the recorded conflict
still has the members of the one it holds.

These are the steps in closed form. Where a step leads, and in which order the versions of a
conflict stand, is read off them.
-/

namespace CausalReplica

namespace Version

/-- The versions of a list that a version does not dominate. -/
def remaining (v : Version) (ws : List Version) : List Version :=
  ws.filter fun w ↦ v.relate w != .dominates

theorem mem_remaining {v w : Version} {ws : List Version} :
    w ∈ v.remaining ws ↔ w ∈ ws ∧ ¬w.vector < v.vector := by
  rw [remaining, List.mem_filter, bne_iff_ne, ne_eq, relate_eq_dominates_iff]

theorem remaining_eq_nil {v : Version} {ws : List Version} (h : ∀ w ∈ ws, w.vector < v.vector) :
    v.remaining ws = [] := by
  rw [List.eq_nil_iff_forall_not_mem]
  exact fun w hw ↦ (mem_remaining.1 hw).2 (h w (mem_remaining.1 hw).1)

end Version

namespace Verdict

/-- A conflict is that of the known versions which the version does not dominate, in their order,
and of the version itself. -/
theorem conflict_eq {known : Known} {v : Version} {c : Conflict} (hk : known.Sound v.id)
    (h : judge v known = .conflict c) : c = ⟨v.id, v.remaining known.versions ++ [v]⟩ := by
  match known with
  | .clean none => simp [judge] at h
  | .clean (some existing) =>
    obtain ⟨hid, -⟩ := hk existing rfl
    rw [judge, againstStored] at h
    split at h <;> rename_i hrel
    · simp at h
    · simp at h
    · simp at h
    · obtain rfl := Verdict.conflict.inj h
      simp [Version.remaining, Known.versions, hrel, hid]
  | .conflicted d =>
    rw [judge, amongConflict] at h
    split at h <;> rename_i hrej
    · simp at h
    · rw [Conflict.insert_of_not_covered (rejection?_eq_none hrej)] at h
      split at h <;> rename_i hins
      · simp at hins
      · obtain ⟨-, rfl⟩ := Conflict.Insertion.inserted.inj hins
        split at h
        · obtain rfl := Verdict.conflict.inj h
          rw [hk.1]
          rfl
        · simp at h

theorem not_covered_of_conflict {known : Known} {v : Version} {c : Conflict}
    (h : judge v known = .conflict c) : ∀ w ∈ known.versions, ¬v.vector ≤ w.vector := by
  intro w hw hle
  obtain ⟨reason, hreject⟩ := judge_of_covered ⟨w, hw, hle⟩
  rw [h] at hreject
  simp at hreject

end Verdict

namespace Replica

variable {r r' : Replica} {on : Conditions} {c : Conflict}

/-! ## Processing -/

/-- What processing a version comes to. -/
inductive Processes (on : Conditions) (r : Replica) (v : Version) : Replica × Progress → Prop
  | rejected (reason : Rejection) (covered : r.Covers v.id v.vector) :
    Processes on r v (r.tick .rejected, .done (.ok (.rejected reason)))
  | accepted {r' : Replica} (advance : r.Advance (some v) r') (setup : r'.setup = r.setup) :
    Processes on r v (r', .done (.ok (.accepted v.tombstone)))
  | conflict (sound : Conflict.Sound ⟨v.id, v.remaining (r.knownVersions v.id) ++ [v]⟩)
    (new : ¬r.Covers v.id v.vector) (nonempty : r.knownVersions v.id ≠ []) :
    Processes on r v
      (settle on (r.tick .detected) ⟨v.id, v.remaining (r.knownVersions v.id) ++ [v]⟩)
  | failed (e : ReplicaError)
    (fault : on.faults.read v.id ≠ none ∨ on.faults.write v.id ≠ none) :
    Processes on r v (r, .done (.error e))

theorem fault_of_stored {v : Version} {e : ReplicaError} (h : r.stored on v = .error e) :
    on.faults.write v.id ≠ none := by
  intro hnone
  rw [stored, StoreFaults.guardWrite, hnone, Store.write_eq] at h
  simp at h

theorem process_processes (on : Conditions) (hr : r.Consistent) {v : Version}
    (hv : v.check = .ok ()) : Processes on r v (process on r v) := by
  rcases known_cases on r v.id with ⟨error, hfault, hk⟩ | ⟨known, hk, hversions, hsound⟩
  · rw [process_of_error hk]
    exact .failed _ (.inl (by simp [hfault]))
  · rw [process_of_known hk]
    have holds := Verdict.judge_holds (hsound hr) hv
    cases hjudge : Verdict.judge v known with
    | accept w =>
      rw [hjudge] at holds
      cases holds with
      | accept above =>
        rw [hversions] at above
        cases hs : r.stored on v with
        | error e =>
          simp only [follow, hs]
          exact .failed e (.inr (fault_of_stored hs))
        | ok r₁ =>
          have hsetup := setup_of_stored hs
          simp only [follow, hs]
          exact .accepted (.of_stored hv above hs rfl rfl) hsetup
    | reject reason =>
      rw [hjudge] at holds
      cases holds with
      | reject _ below => exact .rejected reason (by rwa [Covers, ← hversions])
    | conflict c =>
      have hnew := Verdict.not_covered_of_conflict hjudge
      obtain rfl := Verdict.conflict_eq (hsound hr) hjudge
      rw [hjudge] at holds
      rw [hversions] at holds hnew ⊢
      cases holds with
      | conflict _ sound id mem covers nonempty =>
        refine .conflict sound ?_ nonempty
        rintro ⟨w, hw, hle⟩
        exact hnew w hw hle

/-! ## Resolving -/

theorem settle_of_scripts (on : Conditions) (hc : c.Sound) (h : r.policy.usesScripts = true) :
    ∃ r', settle on r c = (r', .waiting ⟨c, Resolution.plan r.policy c, r.limit⟩) ∧
      r'.setup = r.setup ∧ r'.store = r.store ∧ r'.history = r.history ∧
      r.registry.record c = .ok r'.registry := by
  rw [settle, h]
  simp only [hc.record r.registry]
  exact ⟨_, rfl, rfl, rfl, rfl, rfl⟩

theorem settle_of_plain (on : Conditions) (c : Conflict) (h : r.policy.usesScripts = false) :
    ∃ resolution, Resolution.plan r.policy c = .settled resolution ∧
      settle on r c = ((finish on (r.timed ⟨0⟩) c resolution).1,
        .done (finish on (r.timed ⟨0⟩) c resolution).2) := by
  obtain ⟨resolution, hplan⟩ : ∃ resolution, Resolution.plan r.policy c = .settled resolution := by
    cases hp : r.policy with
    | scripts _ => rw [hp] at h; simp [Policy.usesScripts] at h
    | _ => exact ⟨_, rfl⟩
  exact ⟨resolution, hplan, by rw [settle, h, hplan]⟩

theorem finish_resolved (on : Conditions) (r : Replica) (c : Conflict) (v : Version) :
    (∃ r', finish on r c (.resolved v) = (r', .ok (.resolved v.tombstone)) ∧
      r'.setup = r.setup ∧ r.store.write v = .ok r'.store ∧
      r'.registry = r.registry.clear c.id) ∨
    ∃ e, finish on r c (.resolved v) = (r, .error e) ∧ on.faults.write v.id ≠ none := by
  cases hs : r.stored on v with
  | error e => exact .inr ⟨e, by simp only [finish, hs], fault_of_stored hs⟩
  | ok r₁ =>
    obtain ⟨store, registry⟩ := store_of_stored hs
    have hsetup := setup_of_stored hs
    refine .inl ?_
    simp only [finish, hs]
    exact ⟨_, rfl, hsetup, store, congrArg (Registry.clear · c.id) registry⟩

theorem setup_finish (on : Conditions) (r : Replica) (c : Conflict) (resolution : Resolution) :
    (finish on r c resolution).1.setup = r.setup := by
  cases resolution with
  | resolved v =>
    rw [finish]
    split <;> rename_i hs
    · rfl
    · have hsetup := setup_of_stored hs
      exact hsetup
  | unresolved reason =>
    rw [finish]
    split
    · rfl
    · dsimp only
      split <;> rfl

theorem settle_of_none (on : Conditions) (hc : c.Sound) (h : r.policy = .none) :
    ∃ r', settle on r c = (r', .done (.ok (.conflicted c.size .manual))) ∧ r'.setup = r.setup ∧
      r.registry.record c = .ok r'.registry := by
  have hsettle : settle on r c = ((finish on (r.timed ⟨0⟩) c (.unresolved .manual)).1,
      .done (finish on (r.timed ⟨0⟩) c (.unresolved .manual)).2) := by
    rw [settle, h]
    rfl
  have hsetup := setup_finish on (r.timed ⟨0⟩) c (.unresolved .manual)
  obtain ⟨r', hfinish, -, hrecord⟩ := finish_unresolved on (r.timed ⟨0⟩) hc .manual
  rw [hfinish] at hsettle hsetup
  exact ⟨r', hsettle, hsetup, hrecord⟩

/-! ## What a call that does not fail comes to -/

theorem handled_of_finish {resolution : Resolution} {o : Outcome}
    (h : (finish on r c resolution).2 = .ok o) : o.handled = true := by
  cases resolution with
  | resolved v =>
    rw [finish] at h
    split at h
    · simp at h
    · cases h
      rfl
  | unresolved reason =>
    rw [finish] at h
    split at h
    · simp at h
    · cases h
      rfl

theorem handled_of_settle {o : Outcome} (h : settle on r c = (r', .done (.ok o))) :
    o.handled = true := by
  rw [settle] at h
  split at h
  · exact handled_of_finish (Progress.done.inj (congrArg Prod.snd h))
  · split at h
    · simp at h
    · simp at h

theorem handled_of_process (hr : r.Consistent) {v : Version} (hv : v.check = .ok ()) {o : Outcome}
    (h : process on r v = (r', .done (.ok o))) : o.handled = true := by
  have processes := process_processes on hr hv
  generalize process on r v = out at processes h
  cases processes with
  | rejected reason covered => cases h; rfl
  | accepted advance setup => cases h; rfl
  | conflict sound new nonempty => exact handled_of_settle h
  | failed e fault => cases h

/-! ## Committing -/

/-- The commit check passes exactly if the recorded conflict has the members of the one that is
held, up to order: the hash and the canonical order neither let a changed conflict pass nor refuse
one that is unchanged. -/
theorem stillRecorded_iff_perm (hr : r.Consistent) : r.stillRecorded c = true ↔
    ∃ current, r.registry.get? c.id = some current ∧ current.members.Perm c.members := by
  rw [stillRecorded_iff]
  constructor
  · rintro ⟨current, hget, -, hsame⟩
    exact ⟨current, hget, (Conflict.sameMembers_perm hsame).2⟩
  · rintro ⟨current, hget, hperm⟩
    obtain ⟨hid, hsound, -⟩ := hr.recorded c.id current hget
    exact ⟨current, hget, Conflict.fingerprint_eq_of_perm hsound.antichain hperm,
      (Conflict.sameMembers_iff hsound.antichain).2 ⟨hid, hperm⟩⟩

/-- What the second step of resolving a conflict comes to. -/
inductive Commits (on : Conditions) (r : Replica) (c : Conflict) :
    Resolution → Replica × Except ReplicaError Outcome → Prop
  | resolved {r' : Replica} (v : Version) (current : Conflict)
    (recorded : r.registry.get? c.id = some current) (same : current.members.Perm c.members)
    (setup : r'.setup = r.setup) (store : r.store.write v = .ok r'.store)
    (registry : r'.registry = r.registry.clear c.id) :
    Commits on r c (.resolved v) (r', .ok (.resolved v.tombstone))
  | unresolved {r' : Replica} (reason : Unresolved) (current : Conflict)
    (recorded : r.registry.get? c.id = some current) (same : current.members.Perm c.members)
    (store : r'.store = r.store) :
    Commits on r c (.unresolved reason) (r', .ok (.conflicted c.size reason))
  | failed {r' : Replica} (v : Version) (e : ReplicaError) (current : Conflict)
    (recorded : r.registry.get? c.id = some current) (same : current.members.Perm c.members)
    (fault : on.faults.write v.id ≠ none) (store : r'.store = r.store) :
    Commits on r c (.resolved v) (r', .error e)
  | superseded {r' : Replica} (resolution : Resolution)
    (changed : ∀ current, r.registry.get? c.id = some current → ¬current.members.Perm c.members)
    (setup : r'.setup = r.setup) (store : r'.store = r.store)
    (registry : r'.registry = r.registry) :
    Commits on r c resolution (r', .ok .superseded)

theorem commit_commits (on : Conditions) (hr : r.Consistent) (hc : c.Sound)
    (resolution : Resolution) (time : Millis) :
    Commits on r c resolution (commit on r c resolution time) := by
  have htimed : (r.timed time).Consistent := hr.congr rfl rfl
  rw [commit]
  split <;> rename_i h
  · obtain ⟨current, hget, hperm⟩ := (stillRecorded_iff_perm htimed).1 h
    cases resolution with
    | resolved v =>
      rcases finish_resolved on (r.timed time) c v with
        ⟨r', hfinish, hsetup, hstore, hregistry⟩ | ⟨e, hfinish, hfault⟩
      · rw [hfinish]
        exact .resolved v current hget hperm hsetup hstore hregistry
      · rw [hfinish]
        exact .failed v e current hget hperm hfault rfl
    | unresolved reason =>
      obtain ⟨r', hfinish, hstore, -⟩ := finish_unresolved on (r.timed time) hc reason
      rw [hfinish]
      exact .unresolved reason current hget hperm hstore
  · refine .superseded resolution (fun current hget hperm ↦ h ?_) rfl rfl rfl
    exact (stillRecorded_iff_perm htimed).2 ⟨current, hget, hperm⟩

/-! ## Calls -/

theorem run_receive_of_done {on : Conditions} {script : Script.Request → Script.Run} {v : Version}
    {result : Except ReplicaError Outcome} (h : r.receive on v = (r', .done result)) :
    ((Host.sequential on script).receive v).run r = (result, r') := by
  change ((Host.sequential on script).complete (r.receive on v).2).run (r.receive on v).1 = _
  rw [h]
  rfl

theorem run_resolvePending_eq (on : Conditions) (script : Script.Request → Script.Run)
    (r : Replica) (id : String) : ((Host.sequential on script).resolvePending id).run r =
      match r.resolvePending on id with
      | (r', none) => (.ok none, r')
      | (r', some progress) =>
        let out := ((Host.sequential on script).complete progress).run r'
        (out.1.map some, out.2) := by
  have hatomic : ((Host.sequential on script).atomic fun on r ↦ r.resolvePending on id).run r =
      ((r.resolvePending on id).2, (r.resolvePending on id).1) := rfl
  rw [Host.resolvePending, StateT.run_bind, hatomic]
  obtain ⟨r', progress⟩ := r.resolvePending on id
  cases progress with
  | none => rfl
  | some progress => rfl

/-! ## Sweeps -/

section Sweeps

variable {script : Script.Request → Script.Run} {id : String} {ids : List String}

theorem run_resolveEach_of_ok {o : Outcome}
    (h : ((Host.sequential on script).resolvePending id).run r = (.ok (some o), r')) :
    ((Host.sequential on script).resolveEach (id :: ids)).run r =
      let out := ((Host.sequential on script).resolveEach ids).run r'
      (out.1.map ((id, o) :: ·), out.2) := by
  rw [Host.resolveEach, StateT.run_bind, h]
  rfl

theorem run_resolveEach_of_error {e : ReplicaError}
    (h : ((Host.sequential on script).resolvePending id).run r = (.error e, r')) :
    ((Host.sequential on script).resolveEach (id :: ids)).run r = (.error e, r') := by
  rw [Host.resolveEach, StateT.run_bind, h]
  rfl

theorem run_resolveAll (on : Conditions) (script : Script.Request → Script.Run) (r : Replica) :
    (Host.sequential on script).resolveAll.run r =
      ((Host.sequential on script).resolveEach r.registry.ids).run r := rfl

end Sweeps

end Replica

end CausalReplica
