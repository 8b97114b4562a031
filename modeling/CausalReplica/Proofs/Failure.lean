import CausalReplica.Proofs.Processing
import CausalReplica.Proofs.System

/-!
# Calls that fail

A call that no other call interrupts comes to one of a few things. Its version is rejected, it takes
the place of what is known of its document, or it makes a conflict with it. The conflict is resolved
or left open, or the resolved version cannot be written. This is what all calls come to, with
scripts and without, since nothing can happen to a conflict between the two steps of a call then.

A call that fails has changed nothing, except that under a policy with scripts the conflict that it
could not replace is recorded. It was recorded before the script ran, for readers to see.
-/

namespace CausalReplica

namespace Registry

/-- Recording a conflict that is recorded changes nothing. -/
theorem eq_of_record {r r' : Registry} {c : Conflict} (hc : c.Sound) (hget : r.get? c.id = some c)
    (h : r.record c = .ok r') : r' = r := by
  have hget' : ∀ id, r'.get? id = r.get? id := by
    intro id
    by_cases hid : id = c.id
    · rw [hid, get?_of_record_self hc h, hget]
    · exact get?_of_record_ne hc h hid
  exact congrArg mk (Dict.ext_find? hget')

/-- A conflict that was only just recorded leaves no trace when it is cleared. -/
theorem clear_of_record {r r' : Registry} {c : Conflict} (hc : c.Sound)
    (h : r.record c = .ok r') : r'.clear c.id = r.clear c.id := by
  have hget : ∀ id, (r'.clear c.id).get? id = (r.clear c.id).get? id := by
    intro id
    by_cases hid : id = c.id
    · rw [hid, get?_clear_self, get?_clear_self]
    · rw [get?_clear_ne _ hid, get?_clear_ne _ hid, get?_of_record_ne hc h hid]
  exact congrArg mk (Dict.ext_find? hget)

end Registry

namespace Replica

variable {r r' : Replica} {on : Conditions} {script : Script.Request → Script.Run} {c : Conflict}

/-! ## Resolving without interruption -/

/-- The resolution of a conflict under the policy of the replica. -/
def resolution (r : Replica) (script : Script.Request → Script.Run) (c : Conflict) : Resolution :=
  Resolver.resolve ⟨r.policy, r.limit⟩ script c

theorem resolution_of_setup (h : r'.setup = r.setup) (script : Script.Request → Script.Run)
    (c : Conflict) : r'.resolution script c = r.resolution script c := by
  have hlimit : r'.limit = r.limit := congrArg (fun s ↦ s.2.2) h
  rw [resolution, resolution, policy_of_setup h, hlimit]

/-- What the end of resolving a conflict comes to. -/
inductive Finishes (on : Conditions) (r : Replica) (c : Conflict) :
    Resolution → Replica × Except ReplicaError Outcome → Prop
  | resolved {r' : Replica} (v : Version) (served : on.faults.write v.id = none)
    (setup : r'.setup = r.setup) (store : r.store.write v = .ok r'.store)
    (registry : r'.registry = r.registry.clear c.id) :
    Finishes on r c (.resolved v) (r', .ok (.resolved v.tombstone))
  | unresolved {r' : Replica} (reason : Unresolved) (setup : r'.setup = r.setup)
    (store : r'.store = r.store) (registry : r.registry.record c = .ok r'.registry) :
    Finishes on r c (.unresolved reason) (r', .ok (.conflicted c.size reason))
  | failed (v : Version) (error : StoreError) (fault : on.faults.write v.id = some error) :
    Finishes on r c (.resolved v) (r, .error (.store error))

theorem stored_of_fault {v : Version} {error : StoreError} (h : on.faults.write v.id = some error) :
    r.stored on v = .error (.store error) := by
  rw [stored, StoreFaults.guardWrite, h]

theorem finish_finishes (on : Conditions) (r : Replica) (hc : c.Sound) (resolution : Resolution) :
    Finishes on r c resolution (finish on r c resolution) := by
  have hsetup := setup_finish on r c resolution
  cases resolution with
  | resolved v =>
    cases hfault : on.faults.write v.id with
    | none =>
      rcases finish_resolved on r c v with ⟨r', h, hsetup, hstore, hregistry⟩ | ⟨e, -, hsome⟩
      · rw [h]
        exact .resolved v hfault hsetup hstore hregistry
      · exact absurd hfault hsome
    | some error =>
      simp only [finish, stored_of_fault hfault]
      exact .failed v error hfault
  | unresolved reason =>
    obtain ⟨r', h, hstore, hrecord⟩ := finish_unresolved on r hc reason
    rw [h] at hsetup ⊢
    exact .unresolved reason hsetup hstore hrecord

/-- What resolving a conflict comes to when no other call interrupts it. -/
inductive Settles (on : Conditions) (script : Script.Request → Script.Run) (r : Replica)
    (c : Conflict) : Except ReplicaError Outcome × Replica → Prop
  | resolved {r' : Replica} (v : Version) (resolution : r.resolution script c = .resolved v)
    (served : on.faults.write v.id = none) (setup : r'.setup = r.setup)
    (store : r.store.write v = .ok r'.store) (registry : r'.registry = r.registry.clear c.id) :
    Settles on script r c (.ok (.resolved v.tombstone), r')
  | unresolved {r' : Replica} (reason : Unresolved)
    (resolution : r.resolution script c = .unresolved reason) (setup : r'.setup = r.setup)
    (store : r'.store = r.store) (registry : r.registry.record c = .ok r'.registry) :
    Settles on script r c (.ok (.conflicted c.size reason), r')
  /-- The resolved version cannot be written. A policy with scripts has recorded the conflict. -/
  | failed {r' : Replica} (v : Version) (error : StoreError)
    (resolution : r.resolution script c = .resolved v)
    (fault : on.faults.write v.id = some error) (setup : r'.setup = r.setup)
    (store : r'.store = r.store) (history : r'.history = r.history)
    (registry : r.policy.usesScripts = false ∧ r'.registry = r.registry ∨
      r.policy.usesScripts = true ∧ r.registry.record c = .ok r'.registry) :
    Settles on script r c (.error (.store error), r')

theorem Settles.of_tick {counter : Counter} {out : Except ReplicaError Outcome × Replica}
    (h : Settles on script (r.tick counter) c out) : Settles on script r c out := by
  cases h with
  | resolved v resolution served setup store registry =>
    exact .resolved v resolution served setup store registry
  | unresolved reason resolution setup store registry =>
    exact .unresolved reason resolution setup store registry
  | failed v error resolution fault setup store history registry =>
    exact .failed v error resolution fault setup store history registry

theorem commit_of_recorded (on : Conditions) (h : r.registry.get? c.id = some c)
    (resolution : Resolution) (time : Millis) :
    commit on r c resolution time = finish on (r.timed time) c resolution := by
  have hsame : c.sameMembers c = true := by simp [Conflict.sameMembers]
  have hrecorded : (r.timed time).stillRecorded c = true := stillRecorded_iff.2 ⟨c, h, rfl, hsame⟩
  rw [commit, if_pos hrecorded]

theorem run_complete_waiting (on : Conditions) (script : Script.Request → Script.Run)
    (r : Replica) (c : Conflict) (p : Policy) (limit : Span) :
    ∃ time, ((Host.sequential on script).complete
      (.waiting ⟨c, Resolution.plan p c, limit⟩)).run r =
        ((r.commit on c (Resolver.resolve ⟨p, limit⟩ script c) time).2,
          (r.commit on c (Resolver.resolve ⟨p, limit⟩ script c) time).1) := by
  rw [Resolver.resolve]
  cases Resolution.plan p c with
  | settled resolution => exact ⟨⟨0⟩, rfl⟩
  | ask request => exact ⟨_, rfl⟩

/-- With scripts the conflict is recorded in between, and is so still when the call goes on. -/
theorem settles_of_scripts (on : Conditions) (script : Script.Request → Script.Run) (hc : c.Sound)
    (h : r.policy.usesScripts = true) : Settles on script r c
      (((Host.sequential on script).complete (settle on r c).2).run (settle on r c).1) := by
  obtain ⟨r₁, hsettle, hsetup, hstore, hhistory, hrecord⟩ := settle_of_scripts on hc h
  have hget : r₁.registry.get? c.id = some c := Registry.get?_of_record_self hc hrecord
  obtain ⟨time, hrun⟩ := run_complete_waiting on script r₁ c r.policy r.limit
  have finishes := finish_finishes on (r₁.timed time) hc (r.resolution script c)
  rw [hsettle, hrun, commit_of_recorded on hget]
  change Settles on script r c ((finish on (r₁.timed time) c (r.resolution script c)).2,
    (finish on (r₁.timed time) c (r.resolution script c)).1)
  generalize hresolution : r.resolution script c = resolution at finishes
  generalize finish on (r₁.timed time) c resolution = out at finishes
  cases finishes with
  | resolved v served setup store registry =>
    refine .resolved v hresolution served (setup.trans hsetup) (hstore ▸ store)
      (registry.trans ?_)
    exact Registry.clear_of_record hc hrecord
  | unresolved reason setup store registry =>
    refine .unresolved reason hresolution (setup.trans hsetup) (store.trans hstore) ?_
    rw [hrecord, Registry.eq_of_record hc hget registry]
  | failed v error fault =>
    exact .failed v error hresolution fault hsetup hstore hhistory (.inr ⟨h, hrecord⟩)

/-- Without scripts there is nothing in between. -/
theorem settles_of_plain (on : Conditions) (script : Script.Request → Script.Run) (hc : c.Sound)
    (h : r.policy.usesScripts = false) : Settles on script r c
      (((Host.sequential on script).complete (settle on r c).2).run (settle on r c).1) := by
  obtain ⟨resolution, hplan, hsettle⟩ := settle_of_plain on c h
  have hresolution : r.resolution script c = resolution := by
    rw [Replica.resolution, Resolver.resolve, hplan]
  have finishes := finish_finishes on (r.timed ⟨0⟩) hc resolution
  rw [hsettle]
  change Settles on script r c ((finish on (r.timed ⟨0⟩) c resolution).2,
    (finish on (r.timed ⟨0⟩) c resolution).1)
  generalize finish on (r.timed ⟨0⟩) c resolution = out at finishes
  cases finishes with
  | resolved v served setup store registry =>
    exact .resolved v hresolution served setup store registry
  | unresolved reason setup store registry =>
    exact .unresolved reason hresolution setup store registry
  | failed v error fault => exact .failed v error hresolution fault rfl rfl rfl (.inl ⟨h, rfl⟩)

theorem settle_settles (on : Conditions) (script : Script.Request → Script.Run) (r : Replica)
    (hc : c.Sound) : Settles on script r c
      (((Host.sequential on script).complete (settle on r c).2).run (settle on r c).1) := by
  by_cases h : r.policy.usesScripts = true
  · exact settles_of_scripts on script hc h
  · exact settles_of_plain on script hc (Bool.not_eq_true _ ▸ h)

/-! ## Receiving without interruption -/

variable {v : Version}

/-- The conflict of a version with the known versions that it does not dominate. -/
def conflictWith (r : Replica) (v : Version) : Conflict :=
  ⟨v.id, v.remaining (r.knownVersions v.id) ++ [v]⟩

/-- What a version comes to that passes its check, when no other call interrupts its call. -/
inductive Receives (on : Conditions) (script : Script.Request → Script.Run) (r : Replica)
    (v : Version) : Except ReplicaError Outcome × Replica → Prop
  | rejected {r' : Replica} (reason : Rejection) (covered : r.Covers v.id v.vector)
    (setup : r'.setup = r.setup) (store : r'.store = r.store) (registry : r'.registry = r.registry) :
    Receives on script r v (.ok (.rejected reason), r')
  | accepted {r' : Replica} (above : ∀ w ∈ r.knownVersions v.id, w.vector < v.vector)
    (setup : r'.setup = r.setup) (store : r.store.write v = .ok r'.store)
    (registry : r'.registry = r.registry.clear v.id) :
    Receives on script r v (.ok (.accepted v.tombstone), r')
  | conflict {out : Except ReplicaError Outcome × Replica} (new : ¬r.Covers v.id v.vector)
    (sound : (r.conflictWith v).Sound) (settles : Settles on script r (r.conflictWith v) out) :
    Receives on script r v out
  | failed {r' : Replica} (e : ReplicaError)
    (fault : on.faults.read v.id ≠ none ∨ on.faults.write v.id ≠ none) (setup : r'.setup = r.setup)
    (store : r'.store = r.store) (registry : r'.registry = r.registry)
    (history : r'.history = r.history) : Receives on script r v (.error e, r')

theorem run_receive_receives (on : Conditions) (script : Script.Request → Script.Run)
    (hr : r.Consistent) (hv : v.check = .ok ()) :
    Receives on script r v (((Host.sequential on script).receive v).run r) := by
  have hticked : (r.tick .received).Consistent := hr.congr rfl rfl
  have processes := process_processes on hticked hv
  change Receives on script r v
    (((Host.sequential on script).complete (r.receive on v).2).run (r.receive on v).1)
  have hreceive : r.receive on v = process on (r.tick .received) v := by rw [receive, hv]
  rw [hreceive]
  generalize process on (r.tick .received) v = out at processes
  cases processes with
  | rejected reason covered => exact .rejected reason covered rfl rfl rfl
  | accepted advance setup =>
    cases advance with
    | replace _ check above store registry => exact .accepted above setup store registry
  | conflict sound new nonempty =>
    exact .conflict new sound (settle_settles on script _ sound).of_tick.of_tick
  | failed e fault => exact .failed e fault rfl rfl rfl rfl

theorem run_receive_of_malformed (on : Conditions) (script : Script.Request → Script.Run)
    {e : VersionError} (h : v.check = .error e) :
    ((Host.sequential on script).receive v).run r =
      (.ok (r.malformed e.message).2, (r.malformed e.message).1) :=
  run_receive_of_done (by rw [receive, h])

theorem run_receiveWire_of_malformed (on : Conditions) (script : Script.Request → Script.Run)
    {raw : WireVersion} {e : VersionError} (h : Version.ofWire raw = .error e) :
    ((Host.sequential on script).receiveWire raw).run r =
      (.ok (r.malformed e.message).2, (r.malformed e.message).1) := by
  have hstep : r.receiveWire on raw =
      ((r.malformed e.message).1, .done (.ok (r.malformed e.message).2)) := by
    rw [receiveWire, h]
  change ((Host.sequential on script).complete (r.receiveWire on raw).2).run
    (r.receiveWire on raw).1 = _
  rw [hstep]
  rfl

theorem run_receiveWire (on : Conditions) (script : Script.Request → Script.Run)
    {raw : WireVersion} (h : Version.ofWire raw = .ok v) :
    ((Host.sequential on script).receiveWire raw).run r =
      ((Host.sequential on script).receive v).run r := by
  obtain ⟨hcheck, -⟩ := Version.check_of_ofWire h
  have hreceive : r.receiveWire on raw = r.receive on v := by rw [receiveWire, h, receive, hcheck]
  change ((Host.sequential on script).complete (r.receiveWire on raw).2).run
    (r.receiveWire on raw).1 = _
  rw [hreceive]
  rfl

theorem run_resolvePending (on : Conditions) (script : Script.Request → Script.Run)
    (h : r.registry.get? c.id = some c) :
    ((Host.sequential on script).resolvePending c.id).run r =
      let out := ((Host.sequential on script).complete (settle on r c).2).run (settle on r c).1
      (out.1.map some, out.2) := by
  rw [run_resolvePending_eq, resolvePending, h]

theorem run_resolvePending_of_clean (on : Conditions) (script : Script.Request → Script.Run)
    {id : String} (h : r.registry.get? id = none) :
    ((Host.sequential on script).resolvePending id).run r = (.ok none, r) := by
  rw [run_resolvePending_eq, resolvePending, h]

/-! ## What failures leave behind -/

/-- What a call that brings a version leaves behind when it fails. -/
inductive Leaves (r : Replica) (v : Version) (r' : Replica) : Prop
  | untouched (store : r'.store = r.store) (registry : r'.registry = r.registry)
    (history : r'.history = r.history)
  /-- The conflict of the version is open, and nothing else has changed. -/
  | opened (scripts : r.policy.usesScripts = true) (store : r'.store = r.store)
    (history : r'.history = r.history) (recorded : r'.registry.get? v.id = some (r.conflictWith v))
    (elsewhere : ∀ id, id ≠ v.id → r'.registry.get? id = r.registry.get? id)

theorem Receives.leaves {e : ReplicaError} (h : Receives on script r v (.error e, r')) :
    r.Leaves v r' := by
  cases h with
  | failed _ fault setup store registry history => exact .untouched store registry history
  | conflict new sound settles =>
    cases settles with
    | failed x error resolution fault setup store history registry =>
      rcases registry with ⟨-, hregistry⟩ | ⟨hscripts, hrecord⟩
      · exact .untouched store hregistry history
      · exact .opened hscripts store history (Registry.get?_of_record_self sound hrecord)
          fun id hid ↦ Registry.get?_of_record_ne sound hrecord hid

theorem receive_leaves (hr : r.Consistent) {e : ReplicaError}
    (h : ((Host.sequential on script).receive v).run r = (.error e, r')) : r.Leaves v r' := by
  cases hv : v.check with
  | error e =>
    rw [run_receive_of_malformed on script hv] at h
    cases h
  | ok =>
    have receives := run_receive_receives on script hr hv
    rw [h] at receives
    exact receives.leaves

theorem receiveWire_leaves (hr : r.Consistent) {raw : WireVersion} {e : ReplicaError}
    (h : ((Host.sequential on script).receiveWire raw).run r = (.error e, r')) :
    ∃ v, Version.ofWire raw = .ok v ∧ r.Leaves v r' := by
  cases hraw : Version.ofWire raw with
  | error e =>
    rw [run_receiveWire_of_malformed on script hraw] at h
    cases h
  | ok v =>
    rw [run_receiveWire on script hraw] at h
    exact ⟨v, rfl, receive_leaves hr h⟩

theorem write_of_error {id collection : String} {payload : Option Bytes} {e : ReplicaError}
    (h : r.write on id collection payload = (r', .error e)) : r' = r := by
  have writes := write_writes on r id collection payload
  rw [h] at writes
  cases writes with
  | failed expected => rfl

/-- Resolving an open conflict changes nothing, unless the conflict is resolved. Only the history
may tell that it was tried. -/
theorem resolvePending_leaves (hr : r.Consistent) {id : String}
    {result : Except ReplicaError (Option Outcome)}
    (h : ((Host.sequential on script).resolvePending id).run r = (result, r')) :
    (∃ tombstone, result = .ok (some (.resolved tombstone))) ∨
      r'.store = r.store ∧ r'.registry = r.registry ∧
        ((∃ e, result = .error e) → r'.history = r.history) := by
  cases hget : r.registry.get? id with
  | none =>
    rw [run_resolvePending_of_clean on script hget] at h
    obtain ⟨rfl, rfl⟩ := Prod.mk.inj h
    exact .inr ⟨rfl, rfl, fun _ ↦ rfl⟩
  | some c =>
    obtain ⟨rfl, hsound, -⟩ := hr.recorded id c hget
    have settles := settle_settles on script r hsound
    rw [run_resolvePending on script hget] at h
    obtain ⟨rfl, rfl⟩ := Prod.mk.inj h
    generalize ((Host.sequential on script).complete (settle on r c).2).run (settle on r c).1 = out
      at settles
    -- The conflict is recorded already, so recording it once more changes nothing.
    cases settles with
    | resolved v resolution served setup store registry => exact .inl ⟨v.tombstone, rfl⟩
    | unresolved reason resolution setup store registry =>
      refine .inr ⟨store, Registry.eq_of_record hsound hget registry, ?_⟩
      rintro ⟨e, he⟩
      cases he
    | failed v error resolution fault setup store history registry =>
      refine .inr ⟨store, ?_, fun _ ↦ history⟩
      rcases registry with ⟨-, hregistry⟩ | ⟨-, hrecord⟩
      · exact hregistry
      · exact Registry.eq_of_record hsound hget hrecord

end Replica

namespace System

/-- A call that is not interrupted and fails leaves the store, the registry and the history as they
were. There is one exception: a call that brings a version under a policy with scripts may leave open
the conflict of that version. Resolving an open conflict leaves the store and the registry as they
were when the conflict stays open, too. -/
theorem failed_calls_keep_state (node : NodeId) (policy : Policy) (limit : Span)
    (steps : List (Conditions × Action)) (on : Conditions)
    (script : Script.Request → Script.Run) :
    let r := ((fresh node policy limit).run steps).replica
    let host := Host.sequential on script
    (∀ v e r', (host.receive v).run r = (.error e, r') → r.Leaves v r') ∧
    (∀ raw e r', (host.receiveWire raw).run r = (.error e, r') →
      ∃ v, Version.ofWire raw = .ok v ∧ r.Leaves v r') ∧
    (∀ id collection payload e r', r.write on id collection payload = (r', .error e) → r' = r) ∧
    (∀ id e r', (host.resolvePending id).run r = (.error e, r') →
      r'.store = r.store ∧ r'.registry = r.registry ∧ r'.history = r.history) ∧
    ∀ id members reason r',
      (host.resolvePending id).run r = (.ok (some (.conflicted members reason)), r') →
        r'.store = r.store ∧ r'.registry = r.registry := by
  intro r host
  have hr : r.Consistent := (run_valid (fresh_valid node policy limit) steps).consistent
  refine ⟨fun v e r' h ↦ ?_, fun raw e r' h ↦ ?_, fun id collection payload e r' h ↦ ?_,
    fun id e r' h ↦ ?_, fun id members reason r' h ↦ ?_⟩
  · exact Replica.receive_leaves hr h
  · exact Replica.receiveWire_leaves hr h
  · exact Replica.write_of_error h
  · rcases Replica.resolvePending_leaves hr h with ⟨_, hresult⟩ | ⟨hstore, hregistry, hhistory⟩
    · cases hresult
    · exact ⟨hstore, hregistry, hhistory ⟨e, rfl⟩⟩
  · rcases Replica.resolvePending_leaves hr h with ⟨_, hresult⟩ | ⟨hstore, hregistry, -⟩
    · cases hresult
    · exact ⟨hstore, hregistry⟩

/-- A replica at which a document has arrived. -/
def contested (p : Policy) : Replica :=
  ((fresh ⟨3⟩ p Replica.defaultLimit).run
    [(⟨7, .none⟩, .receive (.document "doc" "notes" [1] (.authored ⟨1⟩) 1))]).replica

/-- A version that is concurrent with the document. -/
def rival : Version := .document "doc" "notes" [2] (.authored ⟨2⟩) 2

/-- The store refuses to write the document. -/
def refusing : Conditions := ⟨8, .failing ["doc"] [] false⟩

/-- The conflict of both would be resolved, but the resolved version cannot be written. -/
theorem failed_calls_keep_state_contested : ∃ e r',
    ((Host.sequential refusing fun _ ↦ ⟨⟨0⟩, .ok .noResult⟩).receive rival).run
      (contested .latest) = (.error e, r') ∧ (contested .latest).Leaves rival r' :=
  ⟨_, _, rfl, (failed_calls_keep_state ⟨3⟩ .latest Replica.defaultLimit _ refusing
    fun _ ↦ ⟨⟨0⟩, .ok .noResult⟩).1 rival _ _ rfl⟩

end System

end CausalReplica
