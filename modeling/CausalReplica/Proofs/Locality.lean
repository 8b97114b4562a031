import CausalReplica.Proofs.Failure

/-!
# A call and its document

A call that no other call interrupts has to do with one document only. What it leaves behind of all
other documents is what was there before. And what it answers and leaves behind of its own document
depends on nothing but what was there before of this document, the node, the policy and the limit
for scripts.

Both come down to the ids that a call works with. A resolved version is one of the document of its
conflict, and a conflict that is found or recorded is one of the document whose version arrives, so
every write and every record lands under the id that the call was made for.
-/

namespace CausalReplica

/-- The same time, and the same faults for one document. -/
structure Conditions.Agree (d : String) (on on' : Conditions) : Prop where
  now : on'.now = on.now
  read : on'.faults.read d = on.faults.read d
  write : on'.faults.write d = on.faults.write d

namespace Replica

/-- What a replica keeps of a document: its stored version and its open conflict. -/
def kept (r : Replica) (d : String) : Option Version × Option Conflict :=
  (r.store.get? d, r.registry.get? d)

/-- The same setup, and the same that is kept of one document. -/
structure Agree (d : String) (a b : Replica) : Prop where
  setup : b.setup = a.setup
  kept : b.kept d = a.kept d

/-- The same answer, at replicas that agree on a document. -/
structure AgreeOut {α : Type} (d : String) (x y : α × Replica) : Prop where
  answer : y.1 = x.1
  state : x.2.Agree d y.2

variable {r r' a b : Replica} {on on' : Conditions} {script : Script.Request → Script.Run}
  {c : Conflict} {v : Version} {d id collection : String} {payload : Option Bytes}
  {out out' : Except ReplicaError Outcome × Replica}

namespace Agree

theorem refl (d : String) (r : Replica) : r.Agree d r := ⟨rfl, rfl⟩

theorem symm (h : a.Agree d b) : b.Agree d a := ⟨h.setup.symm, h.kept.symm⟩

theorem trans (h : a.Agree d b) (h' : b.Agree d r) : a.Agree d r :=
  ⟨h'.setup.trans h.setup, h'.kept.trans h.kept⟩

theorem store (h : a.Agree d b) : b.store.get? d = a.store.get? d := congrArg Prod.fst h.kept

theorem registry (h : a.Agree d b) : b.registry.get? d = a.registry.get? d :=
  congrArg Prod.snd h.kept

theorem policy (h : a.Agree d b) : b.policy = a.policy := policy_of_setup h.setup

theorem node (h : a.Agree d b) : b.node = a.node := congrArg Prod.fst h.setup

theorem limit (h : a.Agree d b) : b.limit = a.limit := congrArg (fun s ↦ s.2.2) h.setup

theorem of_eq (setup : r'.setup = r.setup) (store : r'.store = r.store)
    (registry : r'.registry = r.registry) : r.Agree d r' :=
  ⟨setup, by rw [Replica.kept, store, registry, Replica.kept]⟩

end Agree

theorem kept_of_written (store : r.store.write v = .ok r'.store)
    (registry : r'.registry = r.registry.clear v.id) (d : String) :
    r'.kept d = if d = v.id then (some v, none) else r.kept d := by
  rw [kept, registry]
  split <;> rename_i hd
  · rw [hd, Store.get?_of_write_self store, Registry.get?_clear_self]
  · rw [Store.get?_of_write_ne store hd, Registry.get?_clear_ne _ hd, kept]

theorem kept_of_recorded (hc : c.Sound) (store : r'.store = r.store)
    (registry : r.registry.record c = .ok r'.registry) (d : String) :
    r'.kept d = if d = c.id then (r.store.get? d, some c) else r.kept d := by
  rw [kept, store]
  split <;> rename_i hd
  · rw [hd, Registry.get?_of_record_self hc registry]
  · rw [Registry.get?_of_record_ne hc registry hd, kept]

/-! ## Resolving -/

theorem fits_resolution (r : Replica) (script : Script.Request → Script.Run) (hc : c.Sound) :
    (r.resolution script c).Fits c :=
  hc.fits_resolve _ script

theorem id_of_resolution (hc : c.Sound) (h : r.resolution script c = .resolved v) :
    v.id = c.id := by
  have hfits := r.fits_resolution script hc
  rw [h] at hfits
  cases hfits with
  | resolved _ hid => exact hid

/-- What resolving a conflict answers, and what is kept of its document then. -/
def settlement (on : Conditions) (script : Script.Request → Script.Run) (r : Replica)
    (c : Conflict) : Except ReplicaError Outcome × (Option Version × Option Conflict) :=
  match r.resolution script c, on.faults.write c.id with
  | .resolved v, none => (.ok (.resolved v.tombstone), (some v, none))
  | .resolved _, some error => (.error (.store error),
      (r.store.get? c.id, if r.policy.usesScripts then some c else r.registry.get? c.id))
  | .unresolved reason, _ => (.ok (.conflicted c.size reason), (r.store.get? c.id, some c))

theorem Settles.eq_settlement (h : Settles on script r c out) (hc : c.Sound) :
    out.2.setup = r.setup ∧ (out.1, out.2.kept c.id) = r.settlement on script c ∧
      ∀ d, d ≠ c.id → out.2.kept d = r.kept d := by
  cases h with
  | resolved v resolution served setup store registry =>
    have hid := id_of_resolution hc resolution
    rw [← hid] at registry
    have hkept := kept_of_written store registry
    rw [hid] at served hkept
    refine ⟨setup, ?_, fun d hd ↦ by rw [hkept, if_neg hd]⟩
    simp only [settlement, resolution, served, hkept, if_true]
  | unresolved reason resolution setup store registry =>
    have hkept := kept_of_recorded hc store registry
    refine ⟨setup, ?_, fun d hd ↦ by rw [hkept, if_neg hd]⟩
    simp only [settlement, resolution, hkept, if_true]
  | @failed r' v error resolution fault setup store history registry =>
    rw [id_of_resolution hc resolution] at fault
    simp only [settlement, resolution, fault]
    -- A policy with scripts has recorded the conflict before the resolved version is refused.
    rcases registry with ⟨hscripts, hregistry⟩ | ⟨hscripts, hrecord⟩
    · have hkept : ∀ d, r'.kept d = r.kept d := fun d ↦ (Agree.of_eq setup store hregistry).kept
      exact ⟨setup, by simp only [hscripts, hkept]; rfl, fun d _ ↦ hkept d⟩
    · have hkept := kept_of_recorded hc store hrecord
      exact ⟨setup, by simp [hscripts, hkept], fun d hd ↦ by rw [hkept, if_neg hd]⟩

theorem Settles.elsewhere (h : Settles on script r c out) (hc : c.Sound) (hd : d ≠ c.id) :
    r.Agree d out.2 := by
  obtain ⟨hsetup, -, hkept⟩ := h.eq_settlement hc
  exact ⟨hsetup, hkept d hd⟩

theorem Settles.agree (h : Settles on script a c out) (h' : Settles on' script b c out')
    (hc : c.Sound) (hon : on.Agree c.id on') (hab : a.Agree c.id b) : AgreeOut c.id out out' := by
  obtain ⟨hsetup, hout, -⟩ := h.eq_settlement hc
  obtain ⟨hsetup', hout', -⟩ := h'.eq_settlement hc
  have hsettlement : b.settlement on' script c = a.settlement on script c := by
    rw [settlement, settlement, resolution_of_setup hab.setup, hon.write, hab.policy, hab.store,
      hab.registry]
  rw [hsettlement, ← hout] at hout'
  obtain ⟨hanswer, hkept⟩ := Prod.mk.inj hout'
  exact ⟨hanswer, hsetup'.trans (hab.setup.trans hsetup.symm), hkept⟩

/-! ## Other documents -/

theorem Receives.elsewhere (h : Receives on script r v out) (hd : d ≠ v.id) :
    r.Agree d out.2 := by
  cases h with
  | rejected reason covered setup store registry => exact .of_eq setup store registry
  | accepted above setup store registry =>
    exact ⟨setup, by rw [kept_of_written store registry, if_neg hd]⟩
  | conflict new sound settles => exact settles.elsewhere sound hd
  | failed e fault setup store registry => exact .of_eq setup store registry

theorem receive_elsewhere (hr : r.Consistent) (hd : d ≠ v.id) :
    r.Agree d (((Host.sequential on script).receive v).run r).2 := by
  cases hv : v.check with
  | error e =>
    rw [run_receive_of_malformed on script hv]
    exact .of_eq rfl rfl rfl
  | ok => exact (run_receive_receives on script hr hv).elsewhere hd

theorem receiveWire_elsewhere {raw : WireVersion} (hr : r.Consistent) (hd : d ≠ raw.id) :
    r.Agree d (((Host.sequential on script).receiveWire raw).run r).2 := by
  cases hraw : Version.ofWire raw with
  | error e =>
    rw [run_receiveWire_of_malformed on script hraw]
    exact .of_eq rfl rfl rfl
  | ok v =>
    obtain ⟨-, hid⟩ := Version.check_of_ofWire hraw
    rw [run_receiveWire on script hraw]
    exact receive_elsewhere hr (hid ▸ hd)

theorem resolvePending_elsewhere (hr : r.Consistent) (hd : d ≠ id) :
    r.Agree d (((Host.sequential on script).resolvePending id).run r).2 := by
  cases hget : r.registry.get? id with
  | none =>
    rw [run_resolvePending_of_clean on script hget]
    exact .refl d r
  | some c =>
    obtain ⟨rfl, hsound, -⟩ := hr.recorded id c hget
    rw [run_resolvePending on script hget]
    exact (settle_settles on script r hsound).elsewhere hsound hd

theorem write_elsewhere (on : Conditions) (r : Replica) (collection : String)
    (payload : Option Bytes) (hd : d ≠ id) : r.Agree d (r.write on id collection payload).1 := by
  have writes := write_writes on r id collection payload
  have hsetup := setup_write on r id collection payload
  generalize r.write on id collection payload = out at writes hsetup
  cases writes with
  | written base v advance hid =>
    cases advance with
    | replace _ check above store registry =>
      exact ⟨hsetup, by rw [kept_of_written store registry, if_neg (hid ▸ hd)]⟩
  | failed expected => exact .refl d r

/-! ## The document of a call -/

namespace Agree

theorem known (hab : a.Agree d b) (hon : on.Agree d on') : b.known on' d = a.known on d := by
  rw [Replica.known, Replica.known, hab.registry, StoreFaults.get?, StoreFaults.get?, hon.read,
    hab.store]

theorem read (hab : a.Agree d b) (hon : on.Agree d on') : b.read on' d = a.read on d := by
  rw [Replica.read, Replica.read, hab.registry, StoreFaults.get?, StoreFaults.get?, hon.read,
    hab.store]

theorem base (hab : a.Agree d b) (hon : on.Agree d on') : b.base on' d = a.base on d := by
  rw [Replica.base, Replica.base, hab.registry, StoreFaults.get?, StoreFaults.get?, hon.read,
    hab.store]

theorem draft (hab : a.Agree d b) (hon : on.Agree d on') (collection : String)
    (payload : Option Bytes) :
    b.draft on' d collection payload = a.draft on d collection payload := by
  rw [Replica.draft, Replica.draft, hab.base hon, hab.node, hon.now]

theorem of_written {a' b' : Replica} (hab : a.Agree v.id b) (setup : a'.setup = a.setup)
    (setup' : b'.setup = b.setup) (store : a.store.write v = .ok a'.store)
    (store' : b.store.write v = .ok b'.store) (registry : a'.registry = a.registry.clear v.id)
    (registry' : b'.registry = b.registry.clear v.id) : a'.Agree v.id b' := by
  refine ⟨setup'.trans (hab.setup.trans setup.symm), ?_⟩
  rw [kept_of_written store registry, kept_of_written store' registry', if_pos rfl, if_pos rfl]

end Agree

theorem exists_stored (r : Replica) (h : on.faults.write v.id = none) :
    ∃ r', r.stored on v = .ok r' ∧ r'.setup = r.setup ∧ r.store.write v = .ok r'.store ∧
      r'.registry = r.registry := by
  cases hs : r.stored on v with
  | error e => exact absurd h (fault_of_stored hs)
  | ok r' => exact ⟨r', rfl, setup_of_stored hs, store_of_stored hs⟩

/-- What a version that passes its check comes to depends on what is kept of its document. -/
theorem process_agree (ha : a.Consistent) (hv : v.check = .ok ()) (hon : on.Agree v.id on')
    (hab : a.Agree v.id b) : AgreeOut v.id
      (((Host.sequential on script).complete (process on a v).2).run (process on a v).1)
      (((Host.sequential on' script).complete (process on' b v).2).run (process on' b v).1) := by
  have hknown := hab.known hon
  rcases known_cases on a v.id with ⟨error, -, hk⟩ | ⟨known, hk, -, hsound⟩
  · rw [process_of_error hk, process_of_error (hknown.trans hk)]
    exact ⟨rfl, hab⟩
  · rw [process_of_known hk, process_of_known (hknown.trans hk)]
    have holds := Verdict.judge_holds (hsound ha) hv
    generalize Verdict.judge v known = verdict at holds ⊢
    cases holds with
    | accept above =>
      cases hw : on.faults.write v.id with
      | some error =>
        simp only [follow, stored_of_fault hw, stored_of_fault (hon.write.trans hw)]
        exact ⟨rfl, hab⟩
      | none =>
        obtain ⟨a', hs, setup, store, registry⟩ := a.exists_stored hw
        obtain ⟨b', hs', setup', store', registry'⟩ := b.exists_stored (hon.write.trans hw)
        simp only [follow, hs, hs']
        exact ⟨rfl, hab.of_written setup setup' store store'
          (congrArg (Registry.clear · v.id) registry) (congrArg (Registry.clear · v.id) registry')⟩
    | reject reason below => exact ⟨rfl, hab.setup, hab.kept⟩
    | conflict c sound id mem covers nonempty =>
      -- The same conflict is found at both replicas, since the same is known of the document.
      have settles := settle_settles on script (a.tick .detected) sound
      have settles' := settle_settles on' script (b.tick .detected) sound
      rw [← id] at hon hab ⊢
      exact settles.agree settles' sound hon ⟨hab.setup, hab.kept⟩

theorem receive_agree (ha : a.Consistent) (hon : on.Agree v.id on') (hab : a.Agree v.id b) :
    AgreeOut v.id (((Host.sequential on script).receive v).run a)
      (((Host.sequential on' script).receive v).run b) := by
  cases hv : v.check with
  | error e =>
    rw [run_receive_of_malformed on script hv, run_receive_of_malformed on' script hv]
    exact ⟨rfl, hab.setup, hab.kept⟩
  | ok =>
    have hticked : (a.tick .received).Agree v.id (b.tick .received) := ⟨hab.setup, hab.kept⟩
    have hconsistent : (a.tick .received).Consistent := ha.congr rfl rfl
    have hrun : ∀ (on : Conditions) (r : Replica), ((Host.sequential on script).receive v).run r =
        ((Host.sequential on script).complete (process on (r.tick .received) v).2).run
          (process on (r.tick .received) v).1 := by
      intro on r
      change ((Host.sequential on script).complete (r.receive on v).2).run (r.receive on v).1 = _
      rw [receive, hv]
    rw [hrun, hrun]
    exact process_agree hconsistent hv hon hticked

theorem receiveWire_agree {raw : WireVersion} (ha : a.Consistent) (hon : on.Agree raw.id on')
    (hab : a.Agree raw.id b) : AgreeOut raw.id (((Host.sequential on script).receiveWire raw).run a)
      (((Host.sequential on' script).receiveWire raw).run b) := by
  cases hraw : Version.ofWire raw with
  | error e =>
    rw [run_receiveWire_of_malformed on script hraw, run_receiveWire_of_malformed on' script hraw]
    exact ⟨rfl, hab.setup, hab.kept⟩
  | ok v =>
    obtain ⟨-, hid⟩ := Version.check_of_ofWire hraw
    rw [run_receiveWire on script hraw, run_receiveWire on' script hraw]
    rw [← hid] at hon hab ⊢
    exact receive_agree ha hon hab

theorem resolvePending_agree (ha : a.Consistent) (hon : on.Agree id on') (hab : a.Agree id b) :
    AgreeOut id (((Host.sequential on script).resolvePending id).run a)
      (((Host.sequential on' script).resolvePending id).run b) := by
  have hregistry := hab.registry
  cases hget : a.registry.get? id with
  | none =>
    rw [run_resolvePending_of_clean on script hget,
      run_resolvePending_of_clean on' script (hregistry.trans hget)]
    exact ⟨rfl, hab⟩
  | some c =>
    obtain ⟨rfl, hsound, -⟩ := ha.recorded id c hget
    rw [run_resolvePending on script hget, run_resolvePending on' script (hregistry.trans hget)]
    obtain ⟨hanswer, hstate⟩ :=
      (settle_settles on script a hsound).agree (settle_settles on' script b hsound) hsound hon hab
    exact ⟨congrArg (Except.map some) hanswer, hstate⟩

theorem write_of_draft (hd : r.draft on v.id collection payload = .ok v)
    (hw : on.faults.write v.id = none) : ∃ r', r.write on v.id collection payload = (r', .ok v) ∧
      r'.setup = r.setup ∧ r.store.write v = .ok r'.store ∧
      r'.registry = r.registry.clear v.id := by
  obtain ⟨r₁, hs, setup, store, registry⟩ := r.exists_stored hw
  rw [write]
  simp only [hd, hs]
  cases hget : r₁.registry.get? v.id with
  | none =>
    rw [← registry, Registry.clear_of_get?_eq_none hget]
    exact ⟨r₁, rfl, setup, store, rfl⟩
  | some c => exact ⟨_, rfl, setup, store, congrArg (Registry.clear · v.id) registry⟩

theorem write_agree (hon : on.Agree id on') (hab : a.Agree id b) (collection : String)
    (payload : Option Bytes) :
    AgreeOut id (a.write on id collection payload).swap
      (b.write on' id collection payload).swap := by
  have hdraft := hab.draft hon collection payload
  rcases draft_cases on a id collection payload with
    ⟨e, hd, -⟩ | ⟨base, v, -, hd, -, rfl, -, -⟩
  · simp only [write, hd, hdraft.trans hd]
    exact ⟨rfl, hab⟩
  · cases hw : on.faults.write v.id with
    | some error =>
      simp only [write, hd, hdraft.trans hd, stored_of_fault hw,
        stored_of_fault (hon.write.trans hw)]
      exact ⟨rfl, hab⟩
    | none =>
      obtain ⟨a', hwrite, setup, store, registry⟩ := write_of_draft hd hw
      obtain ⟨b', hwrite', setup', store', registry'⟩ :=
        write_of_draft (hdraft.trans hd) (hon.write.trans hw)
      rw [hwrite, hwrite']
      exact ⟨rfl, hab.of_written setup setup' store store' registry registry'⟩

end Replica

end CausalReplica
