import CausalReplica.Proofs.Steps

/-!
# Replicas on which nothing stays open

Under a policy that settles every conflict at once, at a store that does not fail, no conflict is
ever recorded. Then the stored version is all that is known of a document, and a version that
arrives does one of three things: it is rejected, it takes the place of the stored version, or the
version that resolves the conflict of both does. A local write adds one write of the node to what
the stored version has seen.
-/

namespace CausalReplica

/-- The policy settles every conflict at once, by the version of a member. -/
def Policy.decides : Policy → Bool
  | .latest => true
  | .tombstone => true
  | _ => false

theorem Policy.usesScripts_of_decides {p : Policy} (hp : p.decides = true) :
    p.usesScripts = false := by
  cases p with
  | latest => rfl
  | tombstone => rfl
  | _ => cases hp

namespace Replica

variable {r r' : Replica} {on : Conditions}

/-! ## The setup of a replica -/

/-- What no write and no delivery changes. -/
def setup (r : Replica) : NodeId × Policy × Span := (r.node, r.policy, r.limit)

theorem policy_of_setup (h : r'.setup = r.setup) : r'.policy = r.policy :=
  congrArg (fun s ↦ s.2.1) h

theorem stored_healthy (r : Replica) (now : Timestamp) (v : Version) :
    r.stored ⟨now, .none⟩ v = .ok { r with store := ⟨r.store.versions.insert v.id v⟩ } := by
  rw [stored, Store.write_eq]
  rfl

theorem setup_of_stored {v : Version} (h : r.stored on v = .ok r') : r'.setup = r.setup := by
  rw [stored] at h
  split at h
  · obtain rfl := Except.ok.inj h
    rfl
  · simp at h

theorem setup_write (on : Conditions) (r : Replica) (id collection : String)
    (payload : Option Bytes) : (r.write on id collection payload).1.setup = r.setup := by
  rw [write]
  split
  · rfl
  · split <;> rename_i hs
    · rfl
    · have hsetup := setup_of_stored hs
      split <;> exact hsetup

/-! ## Deliveries -/

/-- Nothing is open, and conflicts are settled at once. -/
structure Settled (r : Replica) : Prop where
  consistent : r.Consistent
  decides : r.policy.decides = true
  clean : ∀ id, r.registry.get? id = none

/-- What a version does that arrives where nothing is open. -/
inductive Arrives (r : Replica) (v : Version) : Replica → Prop
  | rejected {r' : Replica} (u : Version) (stored : r.store.get? v.id = some u)
    (below : v.vector ≤ u.vector) (store : r'.store = r.store) : Arrives r v r'
  | accepted {r' : Replica}
    (above : ∀ u, r.store.get? v.id = some u → u.vector < v.vector)
    (store : r.store.write v = .ok r'.store) : Arrives r v r'
  | merged {r' : Replica} (u w : Version) (stored : r.store.get? v.id = some u)
    (concurrent : u.relate v = .concurrent)
    (plan : Resolution.plan r.policy ⟨v.id, [u, v]⟩ = .settled (.resolved w))
    (store : r.store.write w = .ok r'.store) : Arrives r v r'

theorem plan_of_decides {p : Policy} (hp : p.decides = true) {c : Conflict}
    (hc : c.members ≠ []) : ∃ w, Resolution.plan p c = .settled (.resolved w) := by
  obtain ⟨v, hv⟩ := Version.exists_latest? hc
  match p with
  | .latest => exact ⟨c.restamped v, by rw [Resolution.plan, Conflict.resolveToLatest?, hv]; rfl⟩
  | .tombstone =>
    cases ht : Version.latest? (c.members.filter (·.tombstone)) with
    | some t =>
      exact ⟨c.restamped t, by rw [Resolution.plan, Conflict.resolveToTombstone?, ht]; rfl⟩
    | none =>
      exact ⟨c.restamped v, by rw [Resolution.plan, Conflict.resolveToTombstone?, ht, hv]; rfl⟩
  | .none => simp [Policy.decides] at hp
  | .scripts _ => simp [Policy.decides] at hp

theorem Settled.congr (hr : r.Settled) (hstore : r'.store = r.store)
    (hregistry : r'.registry = r.registry) (hpolicy : r'.policy = r.policy) : r'.Settled :=
  ⟨hr.consistent.congr hstore hregistry, hpolicy ▸ hr.decides, hregistry ▸ hr.clean⟩

theorem Settled.known (hr : r.Settled) (now : Timestamp) (id : String) :
    r.known ⟨now, .none⟩ id = .ok (.clean (r.store.get? id)) := by
  rw [Replica.known, hr.clean]
  rfl

/-- Nothing is open after an open conflict has been cleared that was not there. -/
theorem Settled.clear (hr : r.Settled) (id : String) : r.registry.clear id = r.registry :=
  Registry.clear_of_get?_eq_none (hr.clean id)

theorem settle_of_decides (hp : r.policy.decides = true) (now : Timestamp) {c : Conflict}
    {w : Version} (hplan : Resolution.plan r.policy c = .settled (.resolved w)) :
    ∃ r', settle ⟨now, .none⟩ r c = (r', .done (.ok (.resolved w.tombstone))) ∧
      r'.setup = r.setup ∧ r.store.write w = .ok r'.store ∧
      r'.registry = r.registry.clear c.id := by
  have hstored := (r.timed ⟨0⟩).stored_healthy now w
  rw [settle, Policy.usesScripts_of_decides hp, hplan]
  simp only [finish, hstored]
  exact ⟨_, rfl, rfl, Store.write_eq _ _, rfl⟩

theorem Settled.process_of_accept (hr : r.Settled) (now : Timestamp) {v : Version}
    (h : Verdict.judge v (.clean (r.store.get? v.id)) = .accept v) :
    ∃ r', process ⟨now, .none⟩ r v = (r', .done (.ok (.accepted v.tombstone))) ∧
      r'.setup = r.setup ∧ r'.registry = r.registry ∧ r.store.write v = .ok r'.store := by
  simp only [process_of_known (hr.known _ _), h, follow, r.stored_healthy now v]
  exact ⟨_, rfl, rfl, hr.clear _, Store.write_eq _ _⟩

theorem Settled.process_of_reject (hr : r.Settled) (now : Timestamp) {v : Version}
    {reason : Rejection} (h : Verdict.judge v (.clean (r.store.get? v.id)) = .reject reason) :
    process ⟨now, .none⟩ r v = (r.tick .rejected, .done (.ok (.rejected reason))) := by
  rw [process_of_known (hr.known _ _), h, follow]

/-- What becomes of a version is decided by how it stands to the stored version. -/
theorem Settled.process_arrives (hr : r.Settled) (now : Timestamp) (v : Version) :
    ∃ r' o, process ⟨now, .none⟩ r v = (r', .done (.ok o)) ∧ r'.setup = r.setup ∧
      r'.registry = r.registry ∧ r.Arrives v r' := by
  cases hu : r.store.get? v.id with
  | none =>
    obtain ⟨r', h, hsetup, hregistry, hstore⟩ :=
      hr.process_of_accept now (v := v) (by rw [hu]; rfl)
    exact ⟨r', _, h, hsetup, hregistry, .accepted (by simp [hu]) hstore⟩
  | some u =>
    have hjudge : Verdict.judge v (.clean (r.store.get? v.id)) = Verdict.againstStored u v := by
      rw [hu]
      rfl
    obtain ⟨hid, -⟩ := hr.consistent.stored v.id u hu
    cases hrel : v.relate u with
    | dominates =>
      obtain ⟨r', h, hsetup, hregistry, hstore⟩ :=
        hr.process_of_accept now (by rw [hjudge, Verdict.againstStored, hrel])
      refine ⟨r', _, h, hsetup, hregistry, .accepted (fun w hw ↦ ?_) hstore⟩
      obtain rfl := Option.some.inj (hu.symm.trans hw)
      exact Version.relate_eq_dominates_iff.1 hrel
    | dominated =>
      exact ⟨_, _, hr.process_of_reject now (by rw [hjudge, Verdict.againstStored, hrel]), rfl, rfl,
        .rejected u hu (Version.relate_covered_iff.1 (.inl hrel)) rfl⟩
    | equal =>
      exact ⟨_, _, hr.process_of_reject now (by rw [hjudge, Verdict.againstStored, hrel]), rfl, rfl,
        .rejected u hu (Version.relate_covered_iff.1 (.inr hrel)) rfl⟩
    | concurrent =>
      -- The conflict is only counted before it is settled, so nothing is ever recorded.
      obtain ⟨w, hplan⟩ : ∃ w, Resolution.plan r.policy ⟨v.id, [u, v]⟩ = .settled (.resolved w) :=
        plan_of_decides hr.decides (by simp)
      obtain ⟨r', h, hsetup, hstore, hregistry⟩ :=
        settle_of_decides (r := r.tick .detected) hr.decides now hplan
      refine ⟨r', .resolved w.tombstone, ?_, hsetup, hregistry.trans (hr.clear _),
        .merged u w hu (Version.relate_concurrent_comm.1 hrel) hplan hstore⟩
      rw [process_of_known (hr.known _ _), hjudge, Verdict.againstStored, hrel, hid]
      exact h

theorem Settled.of_process (hr : r.Settled) (on : Conditions) {v : Version} {progress : Progress}
    (hv : v.check = .ok ()) (h : process on r v = (r', progress)) (hsetup : r'.setup = r.setup)
    (hregistry : r'.registry = r.registry) : r'.Settled := by
  have begins := process_begins on hr.consistent hv
  rw [h] at begins
  exact ⟨begins.consistent hr.consistent, policy_of_setup hsetup ▸ hr.decides,
    hregistry ▸ hr.clean⟩

theorem Arrives.exists_stored {v : Version} (h : r.Arrives v r') (hr : r.Consistent)
    (hv : v.check = .ok ()) : ∃ u, r'.store.get? v.id = some u ∧ v.vector ≤ u.vector := by
  cases h with
  | rejected u stored below store => exact ⟨u, store ▸ stored, below⟩
  | accepted above store => exact ⟨v, Store.get?_of_write_self store, le_rfl⟩
  | merged u w stored concurrent plan store =>
    have sound := Conflict.Sound.pair (hr.stored v.id u stored) ⟨rfl, hv⟩ concurrent
    cases sound.fits_of_plan plan with
    | resolved _ wid wcheck wvector =>
      have wid : w.id = v.id := wid
      refine ⟨w, wid ▸ Store.get?_of_write_self store, ?_⟩
      rw [wvector, Conflict.mergedVector_pair]
      exact le_sup_right

/-- A version that has seen all that is stored is stored when it arrives, unless the stored version
has an equal vector. -/
theorem Arrives.stored_of_le {v u : Version} (h : r.Arrives v r')
    (hu : r.store.get? v.id = some u) (hle : u.vector ≤ v.vector) :
    r'.store.get? v.id = some v ∨ r'.store.get? v.id = some u ∧ u.vector = v.vector := by
  cases h with
  | rejected w stored below store =>
    obtain rfl := Option.some.inj (hu.symm.trans stored)
    exact .inr ⟨store ▸ hu, le_antisymm hle below⟩
  | accepted above store => exact .inl (Store.get?_of_write_self store)
  | merged w x stored concurrent plan store =>
    obtain rfl := Option.some.inj (hu.symm.trans stored)
    exact absurd hle (Version.relate_eq_concurrent_iff.1 concurrent).1

theorem Arrives.of_tick {c : Counter} {v : Version} (h : (r.tick c).Arrives v r') :
    r.Arrives v r' := by
  cases h with
  | rejected u stored below store => exact .rejected u stored below store
  | accepted above store => exact .accepted above store
  | merged u w stored concurrent plan store => exact .merged u w stored concurrent plan store

theorem Settled.receiveWire_arrives (hr : r.Settled) (now : Timestamp)
    (script : Script.Request → Script.Run) {v : Version} (hv : v.check = .ok ())
    (hfits : v.vector.FitsWire) :
    ∃ r' o, ((Host.sequential ⟨now, .none⟩ script).receiveWire v.toWire).run r = (.ok o, r') ∧
      r'.setup = r.setup ∧ r'.Settled ∧ r.Arrives v r' := by
  have hticked : (r.tick .received).Settled := hr.congr rfl rfl rfl
  obtain ⟨r', o, h, hsetup, hregistry, harrives⟩ := hticked.process_arrives now v
  refine ⟨r', o, ?_, hsetup, hticked.of_process _ hv h hsetup hregistry, harrives.of_tick⟩
  have hwire : r.receiveWire ⟨now, .none⟩ v.toWire = (r', .done (.ok o)) := by
    rw [receiveWire, Version.ofWire_toWire hv hfits]
    exact h
  change ((Host.sequential ⟨now, .none⟩ script).complete
    (r.receiveWire ⟨now, .none⟩ v.toWire).2).run (r.receiveWire ⟨now, .none⟩ v.toWire).1 = _
  rw [hwire]
  rfl

/-! ## Local writes -/

/-- The vector of the stored version. -/
def seen (r : Replica) (id : String) : VersionVector :=
  ((r.store.get? id).map (·.vector)).getD .empty

theorem seen_of_stored {id : String} {v : Version} (h : r.store.get? id = some v) :
    r.seen id = v.vector := by
  rw [seen, h]
  rfl

theorem le_seen_iff {id : String} {x : VersionVector} :
    r.seen id ≤ x ↔ ∀ u, r.store.get? id = some u → u.vector ≤ x := by
  cases h : r.store.get? id with
  | none => simp [seen, h, ← VersionVector.bot_def]
  | some u => simp [seen, h]

theorem Settled.base (hr : r.Settled) (now : Timestamp) (id : String) :
    r.base ⟨now, .none⟩ id = .ok (r.seen id) := by
  rw [Replica.base, hr.clean, StoreFaults.get?, seen]
  cases r.store.get? id <;> rfl

/-- A local write adds one write of the node to the stored version, or it changes nothing. -/
theorem Settled.write_cases (hr : r.Settled) (now : Timestamp) (id collection : String)
    (payload : Option Bytes) :
    (∃ e, r.write ⟨now, .none⟩ id collection payload = (r, .error e)) ∨
    ∃ r' x, r.write ⟨now, .none⟩ id collection payload = (r', .ok x) ∧ r'.Settled ∧
      x.id = id ∧ x.check = .ok () ∧ x.modified = now ∧
      (r.seen id).increment r.node = .ok x.vector ∧ r.store.write x = .ok r'.store := by
  have writes := write_writes ⟨now, .none⟩ r id collection payload
  have hsetup := setup_write ⟨now, .none⟩ r id collection payload
  generalize r.write ⟨now, .none⟩ id collection payload = out at writes hsetup
  cases writes with
  | failed expected => exact .inl ⟨_, rfl⟩
  | @written r' base x advance hid built vector modified =>
    obtain rfl := Except.ok.inj ((hr.base now id).symm.trans built)
    have hpolicy := policy_of_setup hsetup
    have hconsistent := advance.consistent hr.consistent
    cases advance with
    | replace _ check above store registry =>
      refine .inr ⟨_, x, rfl, ⟨hconsistent, ?_, ?_⟩, hid, check, modified, vector, store⟩
      · exact hpolicy ▸ hr.decides
      · rw [registry, hr.clear]
        exact hr.clean

end Replica

end CausalReplica
