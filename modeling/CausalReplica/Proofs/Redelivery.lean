import CausalReplica.Proofs.Attended
import CausalReplica.Proofs.Failure

/-!
# Versions that are delivered once more

At a store that does not fail, what a delivery leaves in the store and in the registry depends on
nothing but the store, the registry and the policy. So where a call has failed and left all of them
as they were, the version may be delivered once more, and comes to what it would have come to.

Under a policy with scripts a failed call may leave the conflict of its version open. The version is
known then, so it is rejected when it is delivered once more, as one that has been applied already.
What it would have come to is still to be had: resolving the open conflict gives it, since a script
that is asked the same once more gives the same answer.
-/

namespace CausalReplica

namespace Replica

variable {r r' : Replica} {on on' : Conditions} {script : Script.Request → Script.Run}
  {c : Conflict} {v x : Version} {out out' : Except ReplicaError Outcome × Replica}

/-- The same versions are stored, and the same conflicts are open. -/
structure Alike (r r' : Replica) : Prop where
  store : r'.store = r.store
  registry : r'.registry = r.registry

/-! ## At a store that does not fail -/

theorem Settles.of_resolved (h : Settles on script r c out) (hon : on.faults = .none)
    (hx : r.resolution script c = .resolved x) : out.1 = .ok (.resolved x.tombstone) ∧
      r.store.write x = .ok out.2.store ∧ out.2.registry = r.registry.clear c.id := by
  cases h with
  | resolved v resolution served setup store registry =>
    obtain rfl := Resolution.resolved.inj (resolution.symm.trans hx)
    exact ⟨rfl, store, registry⟩
  | unresolved reason resolution => cases resolution.symm.trans hx
  | failed v reason resolution fault =>
    rw [hon] at fault
    cases fault

theorem Settles.of_unresolved (h : Settles on script r c out) {reason : Unresolved}
    (hreason : r.resolution script c = .unresolved reason) : (∃ o, out.1 = .ok o) ∧
      out.2.store = r.store ∧ r.registry.record c = .ok out.2.registry := by
  cases h with
  | resolved v resolution => cases resolution.symm.trans hreason
  | unresolved reason resolution setup store registry => exact ⟨⟨_, rfl⟩, store, registry⟩
  | failed v reason resolution => cases resolution.symm.trans hreason

theorem Settles.alike (h : Settles on script r c out) (h' : Settles on' script r' c out')
    (hon : on.faults = .none) (hon' : on'.faults = .none) (hsetup : r'.setup = r.setup)
    (hr : r.Alike r') : out.2.Alike out'.2 := by
  have hsame := resolution_of_setup hsetup script c
  cases hresolution : r.resolution script c with
  | resolved x =>
    obtain ⟨-, hstore, hregistry⟩ := h.of_resolved hon hresolution
    obtain ⟨-, hstore', hregistry'⟩ := h'.of_resolved hon' (hsame.trans hresolution)
    rw [hr.store] at hstore'
    exact ⟨Except.ok.inj (hstore'.symm.trans hstore), by rw [hregistry', hr.registry, hregistry]⟩
  | unresolved reason =>
    obtain ⟨-, hstore, hrecord⟩ := h.of_unresolved hresolution
    obtain ⟨-, hstore', hrecord'⟩ := h'.of_unresolved (hsame.trans hresolution)
    rw [hr.registry] at hrecord'
    exact ⟨by rw [hstore', hr.store, hstore], Except.ok.inj (hrecord'.symm.trans hrecord)⟩

theorem Receives.of_covered (h : Receives on script r v out)
    (hcovered : r.Covers v.id v.vector) : r.Alike out.2 := by
  obtain ⟨w, hw, hle⟩ := hcovered
  cases h with
  | rejected reason covered setup store registry => exact ⟨store, registry⟩
  | accepted above => exact absurd hle (above w hw).not_ge
  | conflict new => exact absurd ⟨w, hw, hle⟩ new
  | failed e fault setup store registry => exact ⟨store, registry⟩

theorem exists_not_lt_of_conflictWith (h : (r.conflictWith v).Sound) :
    ¬∀ w ∈ r.knownVersions v.id, w.vector < v.vector := by
  intro habove
  have hsize := h.two_le_size
  rw [Conflict.size, conflictWith, Version.remaining_eq_nil habove] at hsize
  simp at hsize

theorem Receives.of_above (h : Receives on script r v out) (hon : on.faults = .none)
    (habove : ∀ w ∈ r.knownVersions v.id, w.vector < v.vector) :
    r.store.write v = .ok out.2.store ∧ out.2.registry = r.registry.clear v.id := by
  cases h with
  | rejected reason covered =>
    obtain ⟨w, hw, hle⟩ := covered
    exact absurd hle (habove w hw).not_ge
  | accepted above setup store registry => exact ⟨store, registry⟩
  | conflict new sound => exact absurd habove (exists_not_lt_of_conflictWith sound)
  | failed e fault =>
    rw [hon] at fault
    simp [StoreFaults.none] at fault

theorem Receives.of_conflict (h : Receives on script r v out) (hon : on.faults = .none)
    (hnew : ¬r.Covers v.id v.vector) (hnot : ¬∀ w ∈ r.knownVersions v.id, w.vector < v.vector) :
    Settles on script r (r.conflictWith v) out := by
  cases h with
  | rejected reason covered => exact absurd covered hnew
  | accepted above => exact absurd above hnot
  | conflict new sound settles => exact settles
  | failed e fault =>
    rw [hon] at fault
    simp [StoreFaults.none] at fault

theorem Receives.exists_ok (h : Receives on script r v out) (hon : on.faults = .none) :
    ∃ o, out.1 = .ok o := by
  cases h with
  | rejected reason => exact ⟨_, rfl⟩
  | accepted above => exact ⟨_, rfl⟩
  | conflict new sound settles =>
    cases hresolution : r.resolution script (r.conflictWith v) with
    | resolved x => exact ⟨_, (settles.of_resolved hon hresolution).1⟩
    | unresolved reason => exact (settles.of_unresolved hresolution).1
  | failed e fault =>
    rw [hon] at fault
    simp [StoreFaults.none] at fault

theorem Receives.alike (h : Receives on script r v out) (h' : Receives on' script r' v out')
    (hon : on.faults = .none) (hon' : on'.faults = .none) (hsetup : r'.setup = r.setup)
    (hr : r.Alike r') : out.2.Alike out'.2 := by
  have hknown : r'.knownVersions v.id = r.knownVersions v.id :=
    knownVersions_congr (by rw [hr.store]) (by rw [hr.registry])
  have hcovers : r'.Covers v.id v.vector ↔ r.Covers v.id v.vector := by
    rw [Covers, Covers, hknown]
  by_cases hcovered : r.Covers v.id v.vector
  · have hstays := h.of_covered hcovered
    have hstays' := h'.of_covered (hcovers.2 hcovered)
    exact ⟨by rw [hstays'.store, hr.store, hstays.store],
      by rw [hstays'.registry, hr.registry, hstays.registry]⟩
  · by_cases habove : ∀ w ∈ r.knownVersions v.id, w.vector < v.vector
    · obtain ⟨hstore, hregistry⟩ := h.of_above hon habove
      obtain ⟨hstore', hregistry'⟩ := h'.of_above hon' (hknown ▸ habove)
      rw [hr.store] at hstore'
      exact ⟨Except.ok.inj (hstore'.symm.trans hstore), by rw [hregistry', hr.registry, hregistry]⟩
    · have settles := h.of_conflict hon hcovered habove
      have settles' := h'.of_conflict hon' (mt hcovers.1 hcovered) (hknown ▸ habove)
      have hconflict : r'.conflictWith v = r.conflictWith v := by
        rw [conflictWith, conflictWith, hknown]
      rw [hconflict] at settles'
      exact settles.alike settles' hon hon' hsetup hr

/-! ## After a call that has failed -/

/-- A failed call has left the conflict of its version open, which `x` was to replace. -/
structure Unfinished (script : Script.Request → Script.Run) (r : Replica) (v x : Version)
    (r' : Replica) : Prop where
  scripts : r.policy.usesScripts = true
  new : ¬r.Covers v.id v.vector
  sound : (r.conflictWith v).Sound
  resolution : r.resolution script (r.conflictWith v) = .resolved x
  setup : r'.setup = r.setup
  store : r'.store = r.store
  registry : r.registry.record (r.conflictWith v) = .ok r'.registry

/-- A failed call has changed nothing, or it has left a conflict open. -/
theorem Receives.failed_cases {e : ReplicaError} (h : Receives on script r v (.error e, r')) :
    r'.setup = r.setup ∧ r.Alike r' ∨ ∃ x, r.Unfinished script v x r' := by
  cases h with
  | failed _ fault setup store registry => exact .inl ⟨setup, store, registry⟩
  | conflict new sound settles =>
    cases settles with
    | failed x error resolution fault setup store history registry =>
      rcases registry with ⟨-, hregistry⟩ | ⟨hscripts, hrecord⟩
      · exact .inl ⟨setup, store, hregistry⟩
      · exact .inr ⟨x, hscripts, new, sound, resolution, setup, store, hrecord⟩

theorem run_receive_of_member (on : Conditions) (script : Script.Request → Script.Run)
    (hv : v.check = .ok ()) (hget : r.registry.get? v.id = some c) (hmem : v ∈ c.members) :
    ((Host.sequential on script).receive v).run r =
      (.ok (.rejected .alreadyApplied), (r.tick .received).tick .rejected) := by
  have hequal : (c.members.any fun m ↦ v.relate m = .equal) = true :=
    List.any_eq_true.2 ⟨v, hmem, decide_eq_true (VersionVector.relate_eq_equal_iff.2 rfl)⟩
  have hjudge : Verdict.judge v (.conflicted c) = .reject .alreadyApplied := by
    rw [Verdict.judge, Verdict.amongConflict, Verdict.rejection?, if_pos hequal]
  have hknown : (r.tick .received).known on v.id = .ok (.conflicted c) := by
    change r.known on v.id = _
    rw [known, hget]
  refine run_receive_of_done ?_
  rw [receive, hv]
  rw [process_of_known hknown, hjudge, follow]

namespace Unfinished

/-- What the version would have come to at a store that does not fail. -/
theorem direct (h : r.Unfinished script v x r') (hout : Receives on script r v out)
    (hon : on.faults = .none) : out.1 = .ok (.resolved x.tombstone) ∧
      r.store.write x = .ok out.2.store ∧ out.2.registry = r.registry.clear v.id :=
  (hout.of_conflict hon h.new (exists_not_lt_of_conflictWith h.sound)).of_resolved hon h.resolution

theorem recorded (h : r.Unfinished script v x r') :
    r'.registry.get? v.id = some (r.conflictWith v) :=
  Registry.get?_of_record_self h.sound h.registry

theorem again (h : r.Unfinished script v x r') (on : Conditions)
    (script' : Script.Request → Script.Run) :
    ((Host.sequential on script').receive v).run r' =
      (.ok (.rejected .alreadyApplied), (r'.tick .received).tick .rejected) := by
  have hmem : v ∈ (r.conflictWith v).members := List.mem_append_right _ (List.mem_singleton_self v)
  exact run_receive_of_member on script' (h.sound.member v hmem).2 h.recorded hmem

/-- Resolving the open conflict comes to what the version would have come to. -/
theorem resolved (h : r.Unfinished script v x r') (hon : on.faults = .none) {r'' : Replica}
    (hsetup : r''.setup = r'.setup) (hr : r'.Alike r'') :
    let out := ((Host.sequential on script).resolvePending v.id).run r''
    out.1 = .ok (some (.resolved x.tombstone)) ∧ r.store.write x = .ok out.2.store ∧
      out.2.registry = r.registry.clear v.id := by
  have hget : r''.registry.get? v.id = some (r.conflictWith v) := by
    rw [hr.registry]
    exact h.recorded
  have settles := settle_settles on script r'' h.sound
  have hresolution : r''.resolution script (r.conflictWith v) = .resolved x :=
    (resolution_of_setup (hsetup.trans h.setup) script _).trans h.resolution
  obtain ⟨hresult, hstore, hregistry⟩ := settles.of_resolved hon hresolution
  rw [hr.store, h.store] at hstore
  rw [hr.registry, Registry.clear_of_record h.sound h.registry] at hregistry
  intro out
  have hrun : out = _ := run_resolvePending (c := r.conflictWith v) on script hget
  rw [hrun]
  exact ⟨congrArg (Except.map some) hresult, hstore, hregistry⟩

/-- Delivering the version once more changes nothing, and resolving the open conflict then ends as a
single delivery at a store that does not fail. -/
theorem completes (h : r.Unfinished script v x r') (hout : Receives on script r v out)
    (hon : on.faults = .none) (now now' : Timestamp) :
    let again := ((Host.sequential ⟨now, .none⟩ script).receive v).run r'
    let resolved := ((Host.sequential ⟨now', .none⟩ script).resolvePending v.id).run again.2
    again.1 = .ok (.rejected .alreadyApplied) ∧ r'.Alike again.2 ∧
      resolved.1 = out.1.map some ∧ out.2.Alike resolved.2 := by
  intro again resolved
  have hagain : again = (.ok (.rejected .alreadyApplied), (r'.tick .received).tick .rejected) :=
    h.again ⟨now, .none⟩ script
  have halike : r'.Alike again.2 := by
    rw [hagain]
    exact ⟨rfl, rfl⟩
  have hsetup : again.2.setup = r'.setup := by
    rw [hagain]
    rfl
  have hworks : (Conditions.mk now' .none).faults = .none := rfl
  obtain ⟨hresult, hstore, hregistry⟩ := h.direct hout hon
  obtain ⟨hresult', hstore', hregistry'⟩ := h.resolved hworks hsetup halike
  refine ⟨by rw [hagain], halike, ?_, ?_, ?_⟩
  · rw [hresult]
    exact hresult'
  · exact Except.ok.inj (hstore'.symm.trans hstore)
  · rw [hregistry]
    exact hregistry'

/-- As long as the conflict is open the version has not come to what it would have come to. -/
theorem not_alike (h : r.Unfinished script v x r') (hout : Receives on script r v out)
    (hon : on.faults = .none) (hr : r'.Alike out'.2) : ¬out.2.Alike out'.2 := by
  intro halike
  obtain ⟨-, -, hregistry⟩ := h.direct hout hon
  have hopen := h.recorded
  rw [← hr.registry, halike.registry, hregistry, Registry.get?_clear_self] at hopen
  cases hopen

end Unfinished

end Replica

namespace System

/-- A version whose call has failed may be delivered once more when the store works again. Either
the store and the registry are then as a single delivery would have left them, had the store worked.
Or a policy with scripts has left the conflict of the version open. The version is rejected then as
one that has been applied already, which changes nothing, and it is resolving the open conflict that
ends as the single delivery would have ended. -/
theorem redelivery_completes {node : NodeId} {policy : Policy} {limit : Span}
    {steps : List (Conditions × Action)} {on : Conditions} {script : Script.Request → Script.Run}
    {v : Version} {e : ReplicaError} {r₁ : Replica}
    (h : ((Host.sequential on script).receive v).run
      ((fresh node policy limit).run steps).replica = (.error e, r₁)) (now now' now'' : Timestamp) :
    let r := ((fresh node policy limit).run steps).replica
    let direct := ((Host.sequential ⟨now, .none⟩ script).receive v).run r
    let again := ((Host.sequential ⟨now', .none⟩ script).receive v).run r₁
    let resolved := ((Host.sequential ⟨now'', .none⟩ script).resolvePending v.id).run again.2
    (∃ o, direct.1 = .ok o) ∧
    (direct.2.Alike again.2 ∨
      r.policy.usesScripts = true ∧ again.1 = .ok (.rejected .alreadyApplied) ∧
      r₁.Alike again.2 ∧ resolved.1 = direct.1.map some ∧ direct.2.Alike resolved.2) := by
  intro r direct again resolved
  have hr : r.Consistent := (run_valid (fresh_valid node policy limit) steps).consistent
  cases hv : v.check with
  | error e =>
    rw [Replica.run_receive_of_malformed on script hv] at h
    cases h
  | ok =>
    have hdirect : Replica.Receives ⟨now, .none⟩ script r v direct :=
      Replica.run_receive_receives ⟨now, .none⟩ script hr hv
    have hfailed := Replica.run_receive_receives on script hr hv
    rw [h] at hfailed
    refine ⟨hdirect.exists_ok rfl, ?_⟩
    rcases hfailed.failed_cases with ⟨hsetup, halike⟩ | ⟨x, unfinished⟩
    · have hr₁ : r₁.Consistent := hr.congr halike.store halike.registry
      have hagain := Replica.run_receive_receives ⟨now', .none⟩ script hr₁ hv
      exact .inl (hdirect.alike hagain rfl rfl hsetup halike)
    · exact .inr ⟨unfinished.scripts, unfinished.completes hdirect rfl now' now''⟩

/-- Without scripts the version is simply delivered once more. -/
theorem redelivery_completes_contested : ∃ e r₁,
    ((Host.sequential refusing fun _ ↦ ⟨⟨0⟩, .ok .noResult⟩).receive rival).run
      (contested .latest) = (.error e, r₁) ∧
    let direct := ((Host.sequential ⟨9, .none⟩ fun _ ↦ ⟨⟨0⟩, .ok .noResult⟩).receive rival).run
      (contested .latest)
    let again := ((Host.sequential ⟨9, .none⟩ fun _ ↦ ⟨⟨0⟩, .ok .noResult⟩).receive rival).run r₁
    direct.2.Alike again.2 := by
  obtain ⟨e, r₁, hfailed⟩ : ∃ e r₁,
      ((Host.sequential refusing fun _ ↦ ⟨⟨0⟩, .ok .noResult⟩).receive rival).run
        (contested .latest) = (.error e, r₁) := ⟨_, _, rfl⟩
  refine ⟨e, r₁, hfailed, ?_⟩
  obtain ⟨-, halike | ⟨hscripts, -⟩⟩ := redelivery_completes hfailed 9 9 9
  · exact halike
  · cases hscripts

/-- The policy of a script for the collection of the document. -/
def byScript : Policy := .scripts (.ofList [("notes", "merge")])

/-- A script that always gives the same document. -/
def merging : Script.Request → Script.Run := fun _ ↦ ⟨.ofSeconds 1, .ok (.document [3])⟩

theorem contested_sound : ((contested byScript).conflictWith rival).Sound :=
  Conflict.Sound.pair ⟨rfl, rfl⟩ ⟨rfl, rfl⟩ (by decide)

theorem contested_resolution : ∃ x, x.id = "doc" ∧
    (contested byScript).resolution merging ((contested byScript).conflictWith rival) = .resolved x := by
  have hscripted : ∀ m ∈ ((contested byScript).conflictWith rival).members,
      m.Scripted (.ofList [("notes", "merge")]) fun _ ↦ "notes" := by
    intro m hm
    rcases List.mem_pair.1 hm with rfl | rfl
    · exact ⟨rfl, rfl⟩
    · exact ⟨rfl, rfl⟩
  obtain ⟨request, hplan, -, -⟩ := Conflict.plan_of_scripted contested_sound hscripted
  have hpolicy : (contested byScript).policy = .scripts (.ofList [("notes", "merge")]) := rfl
  rw [Replica.resolution, Resolver.resolve, hpolicy, hplan]
  exact ⟨_, rfl, rfl⟩

/-- The document of the script cannot be written, and the call fails with the conflict open. -/
theorem contested_unfinished : ∃ x reason r₁,
    ((Host.sequential refusing merging).receive rival).run (contested byScript) =
      (.error (.store (.writeFailed "doc" reason)), r₁) ∧
    (contested byScript).Unfinished merging rival x r₁ := by
  obtain ⟨x, hid, hx⟩ := contested_resolution
  have hnew : ¬(contested byScript).Covers rival.id rival.vector := by
    rintro ⟨w, hw, hle⟩
    obtain rfl := List.mem_singleton.1 hw
    exact absurd (VersionVector.covers_iff.2 hle) (by decide)
  have hreceive : (contested byScript).receive refusing rival = Replica.settle refusing
      (((contested byScript).tick .received).tick .detected)
      ((contested byScript).conflictWith rival) := rfl
  have settles : Replica.Settles refusing merging (contested byScript)
      ((contested byScript).conflictWith rival)
      (((Host.sequential refusing merging).receive rival).run (contested byScript)) := by
    have hsettles := Replica.settle_settles refusing merging
      (((contested byScript).tick .received).tick .detected) contested_sound
    rw [← hreceive] at hsettles
    exact hsettles.of_tick.of_tick
  generalize ((Host.sequential refusing merging).receive rival).run (contested byScript) = out
    at settles
  cases settles with
  | resolved y resolution served =>
    obtain rfl := Resolution.resolved.inj (resolution.symm.trans hx)
    rw [hid] at served
    exact absurd served (by decide)
  | unresolved reason resolution => cases resolution.symm.trans hx
  | @failed r₁ y error resolution fault setup store history registry =>
    obtain rfl := Resolution.resolved.inj (resolution.symm.trans hx)
    have hfull : refusing.faults.write "doc" = some (.writeFailed "doc" "disk full") := by rfl
    rw [hid] at fault
    obtain rfl := Option.some.inj (fault.symm.trans hfull)
    rcases registry with ⟨hplain, -⟩ | ⟨hscripts, hrecord⟩
    · cases hplain
    · exact ⟨y, _, r₁, rfl, hscripts, hnew, contested_sound, resolution, setup, store, hrecord⟩

/-- Delivering the version once more is not enough: the conflict stays open, though a single delivery
at a store that works would have resolved it. -/
theorem redelivery_leaves_conflict_open : ¬∀ (node : NodeId) (policy : Policy) (limit : Span)
    (steps : List (Conditions × Action)) (on : Conditions) (script : Script.Request → Script.Run)
    (v : Version) (id reason : String) (r₁ : Replica) (now now' : Timestamp),
    ((Host.sequential on script).receive v).run ((fresh node policy limit).run steps).replica =
      (.error (.store (.writeFailed id reason)), r₁) →
    let direct := ((Host.sequential ⟨now, .none⟩ script).receive v).run
      ((fresh node policy limit).run steps).replica
    let again := ((Host.sequential ⟨now', .none⟩ script).receive v).run r₁
    direct.2.store = again.2.store ∧ direct.2.registry = again.2.registry := by
  intro h
  obtain ⟨x, reason, r₁, hfailed, unfinished⟩ := contested_unfinished
  have hconsistent : (contested byScript).Consistent :=
    (run_valid (fresh_valid ⟨3⟩ byScript Replica.defaultLimit) _).consistent
  have hdirect := Replica.run_receive_receives ⟨9, .none⟩ merging hconsistent (v := rival) rfl
  obtain ⟨hstore, hregistry⟩ := h ⟨3⟩ byScript Replica.defaultLimit _ refusing merging rival "doc"
    reason r₁ 9 9 hfailed
  refine unfinished.not_alike hdirect rfl ?_ ⟨hstore.symm, hregistry.symm⟩
  rw [unfinished.again ⟨9, .none⟩ merging]
  exact ⟨rfl, rfl⟩

end System

end CausalReplica
