import CausalReplica.Proofs.Replica
import CausalReplica.Proofs.Verdict
import CausalReplica.Proofs.Wire
import CausalReplica.Replica.Calls

/-!
# What each step does

Every atomic step of a consistent replica is an advance, and its result tells which one: a call that
ends with an accepted or a resolved version has written it, a call that ends otherwise has written
nothing, and what a call fails with is its input or a fault of the store. A call that is not done
waits with a sound conflict, which is recorded.

There is one lemma for each step, and each is proved from those of the steps that it uses. What is
true of all runs follows from these lemmas alone.
-/

namespace CausalReplica

/-- The errors that a step may end with: those of its input, and those of the store that the step
meets. -/
inductive ReplicaError.Expected (on : Conditions) : ReplicaError → Prop
  | malformed (error : VersionError) : Expected on (.malformed error)
  | vector (error : VectorError) : Expected on (.vector error)
  | read {id : String} {error : StoreError} (h : on.faults.read id = some error) :
    Expected on (.store error)
  | write {id : String} {error : StoreError} (h : on.faults.write id = some error) :
    Expected on (.store error)

/-- Whatever the version has seen is covered once its call has ended like this. -/
def Outcome.handled : Outcome → Bool
  | .malformed _ => false
  | .failed _ => false
  | _ => true

/-- The conflict may be recorded, and what is settled about it may replace it. -/
structure Pending.Sound (p : Pending) : Prop where
  conflict : p.conflict.Sound
  fits : ∀ resolution, p.plan = .settled resolution → resolution.Fits p.conflict

namespace Replica

variable {on : Conditions} {r r' : Replica}

/-- A call on a document ends with this step. -/
inductive Ends (on : Conditions) (r : Replica) (document : String) :
    Replica → Except ReplicaError Outcome → Prop
  | written {r' : Replica} {o : Outcome} (v : Version) (advance : r.Advance (some v) r')
    (id : v.id = document) (changed : o.changedStore = true) : Ends on r document r' (.ok o)
  | unwritten {r' : Replica} {o : Outcome} (advance : r.Advance none r')
    (changed : o.changedStore = false) : Ends on r document r' (.ok o)
  | failed {r' : Replica} {e : ReplicaError} (advance : r.Advance none r')
    (expected : e.Expected on) : Ends on r document r' (.error e)

/-- The first step of a call that brings a version `x` of a document, or no version. -/
inductive Begins (on : Conditions) (r : Replica) (document : String) (x : Option Version) :
    Replica × Progress → Prop
  | done {r' : Replica} {result : Except ReplicaError Outcome}
    (ends : Ends on r document r' result)
    (knows : ∀ o v, result = .ok o → o.handled = true → x = some v → r'.Knows v) :
    Begins on r document x (r', .done result)
  | waiting {r' : Replica} {p : Pending} (advance : r.Advance none r') (sound : p.Sound)
    (id : p.conflict.id = document) (recorded : r'.registry.get? document = some p.conflict)
    (mem : ∀ v, x = some v → v ∈ p.conflict.members) :
    Begins on r document x (r', .waiting p)

/-! ## Counting

Counters and the history are no part of what is stored and recorded. -/

theorem Advance.congr {a b a' b' : Replica} {written : Option Version} (h : a.Advance written a')
    (hs : b.store = a.store) (hr : b.registry = a.registry) (hs' : b'.store = a'.store)
    (hr' : b'.registry = a'.registry) : b.Advance written b' := by
  have hknown : ∀ id, b.knownVersions id = a.knownVersions id := fun id ↦
    knownVersions_congr (by rw [hs]) (by rw [hr])
  cases h with
  | keep store registry => exact .keep (by rw [hs', store, hs]) (by rw [hr', registry, hr])
  | replace v check above store registry =>
    exact .replace v check (hknown _ ▸ above) (by rw [hs, hs', store]) (by rw [hr', hr, registry])
  | record c sound covers stored store registry =>
    exact .record c sound (hknown _ ▸ covers) (by rwa [hs]) (by rw [hs', store, hs])
      (by rw [hr, hr', registry])

theorem Ends.congr {a b : Replica} {document : String} {result : Except ReplicaError Outcome}
    (h : Ends on a document r' result) (hs : b.store = a.store) (hr : b.registry = a.registry) :
    Ends on b document r' result := by
  cases h with
  | written v advance id changed => exact .written v (advance.congr hs hr rfl rfl) id changed
  | unwritten advance changed => exact .unwritten (advance.congr hs hr rfl rfl) changed
  | failed advance expected => exact .failed (advance.congr hs hr rfl rfl) expected

theorem Begins.congr {a b : Replica} {document : String} {x : Option Version}
    {out : Replica × Progress} (h : Begins on a document x out) (hs : b.store = a.store)
    (hr : b.registry = a.registry) : Begins on b document x out := by
  cases h with
  | done ends knows => exact .done (ends.congr hs hr) knows
  | waiting advance sound id recorded mem =>
    exact .waiting (advance.congr hs hr rfl rfl) sound id recorded mem

theorem Consistent.congr {a b : Replica} (h : a.Consistent) (hs : b.store = a.store)
    (hr : b.registry = a.registry) : b.Consistent :=
  ⟨hs ▸ h.stored, hs ▸ hr ▸ h.recorded⟩

theorem Ends.advance {document : String} {result : Except ReplicaError Outcome}
    (h : Ends on r document r' result) : ∃ written, r.Advance written r' := by
  cases h with
  | written v advance _ _ => exact ⟨some v, advance⟩
  | unwritten advance _ => exact ⟨none, advance⟩
  | failed advance _ => exact ⟨none, advance⟩

theorem Begins.consistent {document : String} {x : Option Version} {out : Replica × Progress}
    (h : Begins on r document x out) (hr : r.Consistent) : out.1.Consistent := by
  cases h with
  | done ends _ =>
    obtain ⟨_, advance⟩ := ends.advance
    exact advance.consistent hr
  | waiting advance _ _ _ _ => exact advance.consistent hr

/-! ## The store -/

theorem store_of_stored {v : Version} (h : r.stored on v = .ok r') :
    r.store.write v = .ok r'.store ∧ r'.registry = r.registry := by
  rw [stored, StoreFaults.guardWrite] at h
  split at h
  · rename_i s hs
    split at hs
    · simp at hs
    · obtain rfl := Except.ok.inj h
      exact ⟨hs, rfl⟩
  · simp at h

theorem expected_of_stored {v : Version} {e : ReplicaError} (h : r.stored on v = .error e) :
    e.Expected on := by
  rw [stored, StoreFaults.guardWrite, Store.write_eq] at h
  split at h
  · simp at h
  · rename_i hs
    split at hs
    · rename_i hfault
      obtain rfl := Except.error.inj hs
      obtain rfl := Except.error.inj h
      exact .write hfault
    · simp at hs

/-- A version above all that is known of its document takes its place once it is stored. -/
theorem Advance.of_stored {v : Version} {r₁ : Replica} (hv : v.check = .ok ())
    (above : ∀ w ∈ r.knownVersions v.id, w.vector < v.vector) (h : r.stored on v = .ok r₁)
    (hs : r'.store = r₁.store) (hr : r'.registry = r₁.registry.clear v.id) :
    r.Advance (some v) r' := by
  obtain ⟨store, registry⟩ := store_of_stored h
  exact .replace v hv above (hs ▸ store) (by rw [hr, registry])

/-! ## Resolving -/

section Resolving

variable {c : Conflict} {resolution : Resolution}

theorem finish_unresolved (on : Conditions) (r : Replica) (hc : c.Sound) (reason : Unresolved) :
    ∃ r', finish on r c (.unresolved reason) = (r', .ok (.conflicted c.size reason)) ∧
      r'.store = r.store ∧ r.registry.record c = .ok r'.registry := by
  simp only [finish, hc.record r.registry]
  split
  · exact ⟨_, rfl, rfl, rfl⟩
  · exact ⟨_, rfl, rfl, rfl⟩

theorem covers_of_record (hc : c.Sound) (h : r.registry.record c = .ok r'.registry) {m : Version}
    (hm : m ∈ c.members) : r'.Covers c.id m.vector := by
  refine ⟨m, ?_, le_rfl⟩
  rwa [knownVersions_of_recorded (Registry.get?_of_record_self hc h)]

/-- A resolution that fits a conflict ends the call on it: the resolved version is written, or the
conflict is recorded. Either way every member is covered. -/
theorem finish_ends (on : Conditions) (hc : c.Sound)
    (covers : ∀ w ∈ r.knownVersions c.id, ∃ m ∈ c.members, w.vector ≤ m.vector)
    (hstored : (r.store.get? c.id).isSome) (hf : resolution.Fits c) :
    Ends on r c.id (finish on r c resolution).1 (finish on r c resolution).2 ∧
      ∀ o, (finish on r c resolution).2 = .ok o →
        ∀ m ∈ c.members, (finish on r c resolution).1.Covers c.id m.vector := by
  cases hf with
  | resolved v hid hcheck hvec =>
    -- The merge of concurrent members is strictly above each of them.
    have above : ∀ w ∈ r.knownVersions v.id, w.vector < v.vector := fun w hw ↦ by
      obtain ⟨m, hm, hle⟩ := covers w (hid ▸ hw)
      exact hle.trans_lt (hvec ▸ hc.lt_mergedVector hm)
    rw [finish]
    cases hs : r.stored on v with
    | error e => exact ⟨.failed (.keep rfl rfl) (expected_of_stored hs), fun o h ↦ by simp at h⟩
    | ok r₁ =>
      have advance : r.Advance (some v) ({ r₁ with
          registry := r₁.registry.clear c.id
          history := r₁.history.record (c.collection?.getD "")
            (.resolved c.id v.tombstone on.now) }.tick .resolved) :=
        .of_stored hcheck above hs rfl (by rw [hid]; rfl)
      refine ⟨.written v advance hid rfl, fun o _ m hm ↦ ?_⟩
      obtain ⟨w, hw, hle⟩ := advance.knows_written.covers
      exact ⟨w, hid ▸ hw, (hvec ▸ Conflict.le_mergedVector hm).trans hle⟩
  | unresolved reason =>
    obtain ⟨r', hfinish, hstore, hrecord⟩ := finish_unresolved on r hc reason
    rw [hfinish]
    exact ⟨.unwritten (.record c hc covers hstored hstore hrecord) rfl,
      fun o _ m hm ↦ covers_of_record hc hrecord hm⟩

/-- The first step of resolving a conflict ends the call, or it waits with the conflict recorded. -/
theorem settle_begins (hc : c.Sound)
    (covers : ∀ w ∈ r.knownVersions c.id, ∃ m ∈ c.members, w.vector ≤ m.vector)
    (hstored : (r.store.get? c.id).isSome) {x : Option Version}
    (hx : ∀ v, x = some v → v ∈ c.members) : Begins on r c.id x (settle on r c) := by
  rw [settle]
  split
  · rename_i resolution _ hplan
    obtain ⟨ends, hcovers⟩ := finish_ends (r := r.timed ⟨0⟩) on hc covers hstored
      (hc.fits_of_plan hplan)
    refine .done (ends.congr rfl rfl) fun o v ho _ hv ↦ ?_
    obtain ⟨hid, hcheck⟩ := hc.member v (hx v hv)
    exact ⟨hcheck, by rw [hid]; exact hcovers o ho v (hx v hv)⟩
  · -- Only a policy with scripts gets here: the conflict is recorded before its script runs.
    simp only [hc.record r.registry]
    exact .waiting (.record c hc covers hstored rfl (hc.record r.registry))
      ⟨hc, fun _ hplan ↦ hc.fits_of_plan hplan⟩ rfl
      (Registry.get?_of_record_self hc (hc.record r.registry)) hx

theorem stillRecorded_iff : r.stillRecorded c = true ↔ ∃ current,
    r.registry.get? c.id = some current ∧ current.fingerprint = c.fingerprint ∧
      current.sameMembers c = true := by
  rw [stillRecorded]
  split <;> rename_i h <;> rw [h]
  · simp
  · simp

/-- The second step of resolving a conflict ends the call. Where the recorded conflict has changed
it does nothing. -/
theorem commit_ends (hr : r.Consistent) (hc : c.Sound) (hf : resolution.Fits c) (time : Millis) :
    Ends on r c.id (commit on r c resolution time).1 (commit on r c resolution time).2 := by
  rw [commit]
  split <;> rename_i h
  · obtain ⟨current, hget, -, hsame⟩ := stillRecorded_iff.1 h
    obtain ⟨-, hperm⟩ := Conflict.sameMembers_perm hsame
    obtain ⟨-, -, v, hv, -⟩ := hr.recorded c.id current hget
    -- What is known are the members that were recorded then, perhaps in another order.
    have covers : ∀ w ∈ (r.timed time).knownVersions c.id, ∃ m ∈ c.members,
        w.vector ≤ m.vector := by
      intro w hw
      rw [knownVersions_of_recorded hget] at hw
      exact ⟨w, hperm.mem_iff.1 hw, le_rfl⟩
    obtain ⟨ends, -⟩ := finish_ends on hc covers (Option.isSome_of_eq_some hv) hf
    exact ends.congr rfl rfl
  · exact .unwritten (.keep rfl rfl) rfl

/-- A call that waits ends with its second step: it commits what the policy settled, or what the
answer of its script makes of the conflict. -/
theorem complete_ends (on : Conditions) (hr : r.Consistent) {p : Pending} (hp : p.Sound)
    (run : Script.Run) :
    Ends on r p.conflict.id
      (((Host.sequential on fun _ ↦ run).complete (.waiting p)).run r).2
      (((Host.sequential on fun _ ↦ run).complete (.waiting p)).run r).1 := by
  obtain ⟨c, plan, limit⟩ := p
  obtain ⟨sound, fits⟩ := hp
  cases plan with
  | settled resolution => exact commit_ends hr sound (fits resolution rfl) _
  | ask request => exact commit_ends hr sound (sound.fits_ofResult request _) _

end Resolving

/-! ## Receiving -/

theorem known_cases (on : Conditions) (r : Replica) (id : String) :
    (∃ error, on.faults.read id = some error ∧ r.known on id = .error (.store error)) ∨
    ∃ known, r.known on id = .ok known ∧ known.versions = r.knownVersions id ∧
      (r.Consistent → known.Sound id) := by
  cases hc : r.registry.get? id with
  | some c =>
    refine .inr ⟨.conflicted c, by rw [known, hc], (knownVersions_of_recorded hc).symm, fun h ↦ ?_⟩
    obtain ⟨hid, hsound, -⟩ := h.recorded id c hc
    exact ⟨hid, hsound⟩
  | none =>
    rw [known, hc, StoreFaults.get?]
    cases hf : on.faults.read id with
    | some error => exact .inl ⟨error, rfl, rfl⟩
    | none =>
      exact .inr ⟨_, rfl, (knownVersions_of_clean hc).symm, fun h v hv ↦ h.stored id v hv⟩

theorem isSome_stored_of_known (hr : r.Consistent) {id : String} (h : r.knownVersions id ≠ []) :
    (r.store.get? id).isSome := by
  cases hc : r.registry.get? id with
  | some c =>
    obtain ⟨-, -, v, hv, -⟩ := hr.recorded id c hc
    exact Option.isSome_of_eq_some hv
  | none =>
    rw [knownVersions_of_clean hc] at h
    cases hs : r.store.get? id with
    | some v => rfl
    | none => simp [hs] at h

theorem process_of_error {v : Version} {e : ReplicaError} (h : r.known on v.id = .error e) :
    r.process on v = (r, .done (.error e)) := by
  rw [process, h]

/-- A verdict is always reached, so no call ends at the fault of one. -/
theorem process_of_known {v : Version} {known : Known} (h : r.known on v.id = .ok known) :
    r.process on v = r.follow on v.id (Verdict.judge v known) := by
  simp only [process, h, Verdict.attempt_eq_judge]

theorem process_begins (on : Conditions) (hr : r.Consistent) {v : Version} (hv : v.check = .ok ()) :
    Begins on r v.id (some v) (process on r v) := by
  rcases known_cases on r v.id with ⟨error, hfault, hk⟩ | ⟨known, hk, hversions, hsound⟩
  · rw [process_of_error hk]
    exact .done (.failed (.keep rfl rfl) (.read hfault)) (by simp)
  · rw [process_of_known hk]
    have holds := Verdict.judge_holds (hsound hr) hv
    rw [hversions] at holds
    generalize Verdict.judge v known = verdict at holds
    cases holds with
    | accept above =>
      cases hs : r.stored on v with
      | error e =>
        simp only [follow, hs]
        exact .done (.failed (.keep rfl rfl) (expected_of_stored hs)) (by simp)
      | ok r₁ =>
        have advance : r.Advance (some v)
            ({ r₁ with registry := r₁.registry.clear v.id }.tick .accepted) :=
          .of_stored hv above hs rfl rfl
        simp only [follow, hs]
        refine .done (.written v advance rfl rfl) fun _ w _ _ hw ↦ ?_
        obtain rfl := Option.some.inj hw
        exact advance.knows_written
    | reject reason below =>
      refine .done (.unwritten (.keep rfl rfl) rfl) fun _ w _ _ hw ↦ ?_
      obtain rfl := Option.some.inj hw
      exact ⟨hv, below⟩
    | conflict c sound id mem covers nonempty =>
      -- Where a conflict is found some version is known, so there is a stored one too.
      have begins :
          Begins on (r.tick .detected) c.id (some v) (settle on (r.tick .detected) c) := by
        refine settle_begins sound (id ▸ covers) ?_ fun w hw ↦ Option.some.inj hw ▸ mem
        exact id ▸ isSome_stored_of_known hr nonempty
      exact id ▸ begins.congr rfl rfl

theorem malformed_begins (document : String) (x : Option Version) (reason : String) :
    Begins on r document x ((r.malformed reason).1, .done (.ok (r.malformed reason).2)) := by
  refine .done (.unwritten (.keep rfl rfl) rfl) fun o v ho handled _ ↦ ?_
  obtain rfl := Except.ok.inj ho
  simp [malformed, Outcome.handled] at handled

theorem receive_begins (on : Conditions) (hr : r.Consistent) (v : Version) :
    Begins on r v.id (some v) (r.receive on v) := by
  rw [receive]
  split <;> rename_i h
  · exact malformed_begins _ _ _
  · have begins := process_begins (r := r.tick .received) on (hr.congr rfl rfl) h
    exact begins.congr rfl rfl

theorem receiveWire_begins (on : Conditions) (hr : r.Consistent) (raw : WireVersion) :
    Begins on r raw.id (Version.ofWire raw).toOption (r.receiveWire on raw) := by
  rw [receiveWire]
  split <;> rename_i h
  · exact malformed_begins _ _ _
  · rename_i v
    obtain ⟨hcheck, hid⟩ := Version.check_of_ofWire h
    have begins := process_begins (r := r.tick .received) on (hr.congr rfl rfl) hcheck
    rw [h, ← hid]
    exact begins.congr rfl rfl

theorem receiveDelivery_begins (on : Conditions) (hr : r.Consistent) (d : Delivery) :
    Begins on r (Host.slotId d) (d.toOption.bind fun raw ↦ (Version.ofWire raw).toOption)
      (r.receiveDelivery on d) := by
  match d with
  | .ok raw => exact receiveWire_begins on hr raw
  | .error unreadable => exact malformed_begins _ _ _

theorem process_of_knows {v : Version} (h : r.Knows v) (hread : on.faults.read v.id = none) :
    ∃ reason, process on r v = (r.tick .rejected, .done (.ok (.rejected reason))) := by
  rcases known_cases on r v.id with ⟨error, hfault, -⟩ | ⟨known, hk, hversions, -⟩
  · rw [hread] at hfault
    simp at hfault
  · obtain ⟨w, hw, hle⟩ := h.covers
    obtain ⟨reason, hjudge⟩ := Verdict.judge_of_covered ⟨w, hversions ▸ hw, hle⟩
    exact ⟨reason, by rw [process_of_known hk, hjudge, follow]⟩

theorem receive_of_knows {v : Version} (h : r.Knows v) (hread : on.faults.read v.id = none) :
    ∃ reason, r.receive on v =
      ((r.tick .received).tick .rejected, .done (.ok (.rejected reason))) := by
  have hticked : (r.tick .received).Knows v := ⟨h.check, h.covers⟩
  rw [receive, h.check]
  exact process_of_knows hticked hread

theorem receiveWire_of_knows {raw : WireVersion} {v : Version} (hraw : Version.ofWire raw = .ok v)
    (h : r.Knows v) (hread : on.faults.read v.id = none) :
    ∃ reason, r.receiveWire on raw =
      ((r.tick .received).tick .rejected, .done (.ok (.rejected reason))) := by
  have hticked : (r.tick .received).Knows v := ⟨h.check, h.covers⟩
  rw [receiveWire, hraw]
  exact process_of_knows hticked hread

theorem read_of_knows {v w : Version} (h : r.Knows v) (hread : r.read on v.id = .ok (some w)) :
    v.vector ≤ w.vector := by
  obtain ⟨u, hu, hle⟩ := h.covers
  rw [read] at hread
  split at hread <;> rename_i hc
  · -- An open conflict is reported, so nothing is read under it.
    simp at hread
  · rw [knownVersions_of_clean hc, Option.mem_toList] at hu
    rw [StoreFaults.get?] at hread
    split at hread
    · simp [Except.mapError, Except.map] at hread
    · simp only [hu, Except.mapError, Except.map, Except.ok.injEq] at hread
      obtain rfl := Option.some.inj (Option.filter_eq_some_iff.1 hread).1
      exact hle

theorem resolvePending_begins (on : Conditions) (hr : r.Consistent) (id : String) :
    r.resolvePending on id = (r, none) ∨
      ∃ r' progress, r.resolvePending on id = (r', some progress) ∧
        Begins on r id none (r', progress) := by
  rw [resolvePending]
  split <;> rename_i hc
  · rename_i c
    obtain ⟨rfl, hsound, v, hv, -⟩ := hr.recorded id c hc
    refine .inr ⟨_, _, rfl, settle_begins hsound (fun w hw ↦ ⟨w, ?_, le_rfl⟩)
      (Option.isSome_of_eq_some hv) (by simp)⟩
    rwa [knownVersions_of_recorded hc] at hw
  · exact .inl rfl

/-! ## Writing -/

/-- What a local write builds on has seen all that is known of the document. -/
theorem base_cases (on : Conditions) (r : Replica) (id : String) :
    (∃ error, on.faults.read id = some error ∧ r.base on id = .error (.store error)) ∨
    ∃ base, r.base on id = .ok base ∧ ∀ w ∈ r.knownVersions id, w.vector ≤ base := by
  cases hc : r.registry.get? id with
  | some c =>
    refine .inr ⟨c.mergedVector, by rw [base, hc], fun w hw ↦ ?_⟩
    rw [knownVersions_of_recorded hc] at hw
    exact Conflict.le_mergedVector hw
  | none =>
    rw [base, hc, StoreFaults.get?, knownVersions_of_clean hc]
    cases hf : on.faults.read id with
    | some error => exact .inl ⟨error, rfl, rfl⟩
    | none =>
      cases hs : r.store.get? id with
      | none => exact .inr ⟨.empty, rfl, by simp⟩
      | some v =>
        refine .inr ⟨v.vector, rfl, fun w hw ↦ ?_⟩
        obtain rfl := List.mem_singleton.1 hw
        exact le_rfl

theorem draft_cases (on : Conditions) (r : Replica) (id collection : String)
    (payload : Option Bytes) :
    (∃ e, r.draft on id collection payload = .error e ∧ e.Expected on) ∨
    ∃ base v, r.base on id = .ok base ∧ r.draft on id collection payload = .ok v ∧
      base.increment r.node = .ok v.vector ∧ v.id = id ∧ v.modified = on.now ∧
      v.check = .ok () := by
  rcases base_cases on r id with ⟨error, hfault, hb⟩ | ⟨base, hb, -⟩
  · exact .inl ⟨_, by rw [draft, hb]; rfl, .read hfault⟩
  · cases hi : base.increment r.node with
    | error e =>
      refine .inl ⟨.vector e, ?_, .vector e⟩
      simp only [draft, hb, hi, bind, Except.bind]
      rfl
    | ok vector =>
      obtain ⟨v, hv, rfl, hid, hmodified⟩ : ∃ v : Version,
          r.draft on id collection payload = (v.check.mapError .malformed).map (fun _ ↦ v) ∧
            v.vector = vector ∧ v.id = id ∧ v.modified = on.now := by
        simp only [draft, hb, hi, bind, Except.bind]
        cases payload with
        | some payload => exact ⟨_, rfl, rfl, rfl, rfl⟩
        | none => exact ⟨_, rfl, rfl, rfl, rfl⟩
      cases hc : v.check with
      | error e => exact .inl ⟨.malformed e, by rw [hv, hc]; rfl, .malformed e⟩
      | ok => exact .inr ⟨base, v, hb, by rw [hv, hc]; rfl, hi, hid, hmodified, hc⟩

/-- A local write replaces all that is known of its document, or it changes nothing. -/
inductive Writes (on : Conditions) (r : Replica) (document : String) :
    Replica × Except ReplicaError Version → Prop
  | written {r' : Replica} (base : VersionVector) (v : Version) (advance : r.Advance (some v) r')
    (id : v.id = document) (built : r.base on document = .ok base)
    (vector : base.increment r.node = .ok v.vector) (modified : v.modified = on.now) :
    Writes on r document (r', .ok v)
  | failed {e : ReplicaError} (expected : e.Expected on) : Writes on r document (r, .error e)

theorem write_writes (on : Conditions) (r : Replica) (id collection : String)
    (payload : Option Bytes) : Writes on r id (r.write on id collection payload) := by
  rw [write]
  rcases draft_cases on r id collection payload with
    ⟨e, hd, he⟩ | ⟨base, v, hb, hd, hvec, rfl, hmodified, hcheck⟩
  · simp only [hd]
    exact .failed he
  · -- The base has seen all that is known, and the new write comes on top of it.
    have above : ∀ w ∈ r.knownVersions v.id, w.vector < v.vector := fun w hw ↦ by
      rcases base_cases on r v.id with ⟨error, -, hb'⟩ | ⟨base', hb', hle⟩
      · rw [hb] at hb'
        simp at hb'
      · obtain rfl := Except.ok.inj (hb.symm.trans hb')
        exact (hle w hw).trans_lt (VersionVector.lt_of_increment hvec)
    simp only [hd]
    cases hs : r.stored on v with
    | error e => exact .failed (expected_of_stored hs)
    | ok r₁ =>
      -- Without an open conflict there is nothing to clear.
      cases hc : r₁.registry.get? v.id with
      | none =>
        simp only [hc]
        exact .written base v
          (.of_stored hcheck above hs rfl (Registry.clear_of_get?_eq_none hc).symm) rfl hb hvec
          hmodified
      | some c =>
        simp only [hc]
        exact .written base v (.of_stored hcheck above hs rfl rfl) rfl hb hvec hmodified

theorem form_of_write {id collection : String} {payload : Option Bytes} {v : Version}
    (h : (r.write on id collection payload).2 = .ok v) : ∃ vector, v = match payload with
      | some body => .document id collection body vector on.now
      | none => .deleted id collection vector on.now := by
  have hdraft : r.draft on id collection payload = .ok v := by
    rw [write] at h
    split at h
    · simp at h
    · rename_i w hw
      split at h
      · simp at h
      · split at h <;> exact hw.trans h
  rw [draft] at hdraft
  cases hb : r.base on id with
  | error e => simp [hb, bind, Except.bind] at hdraft
  | ok base =>
    cases hi : (base.increment r.node).mapError ReplicaError.vector with
    | error e => simp [hb, hi, bind, Except.bind] at hdraft
    | ok vector =>
      simp only [hb, hi, bind, Except.bind] at hdraft
      split at hdraft
      · simp at hdraft
      · obtain rfl := Except.ok.inj hdraft
        exact ⟨vector, rfl⟩

end Replica

end CausalReplica
