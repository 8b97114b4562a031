import CausalReplica.Proofs.Processing
import CausalReplica.Proofs.System

/-!
# What a call in flight commits

A call under a policy with scripts records a conflict, takes its request from it, and waits. While
it waits any other calls may grow, prune, resolve or overwrite the conflict. When it goes on it
writes only if the recorded conflict has the members of the one that it took its request from, and
what it writes carries the merge of exactly these members; otherwise it drops its result.

What is written is above all members, and the replica never forgets it. So a conflict that has been
taken away by a write is never recorded again, and at most one call takes it away.
-/

namespace CausalReplica

namespace Replica

variable {on : Conditions} {r : Replica} {c : Conflict}

/-- How the policy decides between the two kinds of first steps: only without scripts is a conflict
resolved in this step, and only with scripts does the call wait, for the plan that the policy has
for the conflict that is now recorded. -/
inductive Opens (p : Policy) (limit : Span) : Replica × Progress → Prop
  | done {r' : Replica} {result : Except ReplicaError Outcome}
    (plain : ∀ t, result = .ok (.resolved t) → p.usesScripts = false) :
    Opens p limit (r', .done result)
  | waiting {r' : Replica} (c : Conflict) (scripts : p.usesScripts = true)
    (recorded : r'.registry.get? c.id = some c) :
    Opens p limit (r', .waiting ⟨c, Resolution.plan p c, limit⟩)

theorem settle_opens (on : Conditions) (hc : c.Sound) :
    Opens r.policy r.limit (settle on r c) := by
  cases h : r.policy.usesScripts with
  | false =>
    obtain ⟨resolution, -, hsettle⟩ := settle_of_plain on c h
    rw [hsettle]
    exact .done fun _ _ ↦ h
  | true =>
    obtain ⟨r', hsettle, -, -, -, hrecord⟩ := settle_of_scripts on hc h
    rw [hsettle]
    exact .waiting c h (Registry.get?_of_record_self hc hrecord)

theorem process_opens (on : Conditions) (hr : r.Consistent) {v : Version} (hv : v.check = .ok ()) :
    Opens r.policy r.limit (process on r v) := by
  have processes := process_processes on hr hv
  generalize process on r v = out at processes
  cases processes with
  | rejected reason covered => exact .done (by simp)
  | accepted advance setup => exact .done (by simp)
  | conflict sound new nonempty => exact settle_opens (r := r.tick .detected) on sound
  | failed e fault => exact .done (by simp)

theorem malformed_opens (r : Replica) (reason : String) :
    Opens r.policy r.limit ((r.malformed reason).1, .done (.ok (r.malformed reason).2)) :=
  .done (by simp [malformed])

theorem receive_opens (on : Conditions) (hr : r.Consistent) (v : Version) :
    Opens r.policy r.limit (r.receive on v) := by
  rw [receive]
  split <;> rename_i h
  · exact malformed_opens r _
  · exact process_opens (r := r.tick .received) on (hr.congr rfl rfl) h

theorem receiveDelivery_opens (on : Conditions) (hr : r.Consistent) (d : Delivery) :
    Opens r.policy r.limit (r.receiveDelivery on d) := by
  cases d with
  | error unreadable => exact malformed_opens r _
  | ok raw =>
    rw [receiveDelivery, receiveWire]
    split <;> rename_i h
    · exact malformed_opens r _
    · obtain ⟨hcheck, -⟩ := Version.check_of_ofWire h
      exact process_opens (r := r.tick .received) on (hr.congr rfl rfl) hcheck

end Replica

namespace System

variable {on : Conditions} {s : System}

/-! ## Where calls begin to wait -/

/-- An action that lets a call wait has recorded the conflict that the call holds, and only an
action without scripts, or one that resumes a call, resolves a conflict. -/
structure Starts (s : System) (a : Action) (out : System × Event) : Prop where
  flight : ∀ f, out.1.flights = s.flights ++ [f] → s.replica.policy.usesScripts = true ∧
    f.pending.plan = Resolution.plan s.replica.policy f.pending.conflict ∧
    out.1.replica.registry.get? f.pending.conflict.id = some f.pending.conflict
  resolved : ∀ document x t, out.2 = .ended document x (.ok (.resolved t)) →
    s.replica.policy.usesScripts = false ∨ ∃ i run, a = .resume i run

theorem ne_append_of_length_le {fs gs : List Flight} (h : gs.length ≤ fs.length) (f : Flight) :
    gs ≠ fs ++ [f] := by
  rintro rfl
  rw [List.length_append, List.length_singleton] at h
  omega

theorem begin_starts {a : Action} {document : String} {x : Option Version}
    {out : Replica × Progress} (h : Replica.Opens s.replica.policy s.replica.limit out) :
    Starts s a (s.begin document x out) := by
  cases h with
  | done plain =>
    refine ⟨fun f hf ↦ absurd hf (ne_append_of_length_le le_rfl f), fun _ _ t ht ↦ ?_⟩
    rw [begin, Event.ended.injEq] at ht
    exact .inl (plain t ht.2.2)
  | waiting c scripts recorded =>
    refine ⟨fun f hf ↦ ?_, by simp [begin]⟩
    obtain rfl : _ = f := by simpa using List.append_cancel_left hf
    exact ⟨scripts, rfl, recorded⟩

theorem starts_of_quiet {a : Action} {s' : System} {e : Event}
    (hflights : s'.flights.length ≤ s.flights.length)
    (he : ∀ document x t, e ≠ .ended document x (.ok (.resolved t))) : Starts s a (s', e) :=
  ⟨fun f hf ↦ absurd hf (ne_append_of_length_le hflights f),
    fun document x t h ↦ absurd h (he document x t)⟩

theorem step_starts (hs : s.Valid) (on : Conditions) (a : Action) :
    Starts s a (s.step on a) := by
  cases a with
  | receive v => exact begin_starts (Replica.receive_opens on hs.consistent v)
  | deliver d => exact begin_starts (Replica.receiveDelivery_opens on hs.consistent d)
  | write id collection payload => exact starts_of_quiet le_rfl (by simp)
  | resolve id =>
    rw [step, Replica.resolvePending]
    cases hc : s.replica.registry.get? id with
    | none => exact starts_of_quiet le_rfl (by simp)
    | some c =>
      obtain ⟨-, hsound, -⟩ := hs.consistent.recorded id c hc
      exact begin_starts (Replica.settle_opens on hsound)
  | resume i run =>
    rw [step]
    split
    · exact starts_of_quiet le_rfl (by simp)
    · exact ⟨fun f hf ↦ absurd hf (ne_append_of_length_le (List.length_eraseIdx_le ..) f),
        fun _ _ _ _ ↦ .inr ⟨i, run, rfl⟩⟩
  | setPolicy p => exact starts_of_quiet le_rfl (by simp)
  | look => exact starts_of_quiet le_rfl (by simp)

/-! ## Where they go on -/

theorem resume_eq (on : Conditions) {i : ℕ} (run : Script.Run) {f : Flight}
    (hf : s.flights[i]? = some f) : ∃ resolution time,
      (∀ request, f.pending.plan = .ask request → resolution =
        .ofResult f.pending.conflict request (run.within f.pending.limit request.script)) ∧
      (f.pending.Sound → resolution.Fits f.pending.conflict) ∧
      s.step on (.resume i run) =
        (⟨(s.replica.commit on f.pending.conflict resolution time).1, s.flights.eraseIdx i⟩,
          .ended f.pending.conflict.id f.version
            (s.replica.commit on f.pending.conflict resolution time).2) := by
  obtain ⟨x, c, plan, limit⟩ := f
  cases plan with
  | settled resolution =>
    exact ⟨resolution, ⟨0⟩, by simp, fun sound ↦ sound.fits resolution rfl, by rw [step, hf]; rfl⟩
  | ask request =>
    refine ⟨.ofResult c request (run.within limit request.script), Host.millis run.elapsed,
      fun _ h ↦ ?_, fun sound ↦ sound.conflict.fits_ofResult request _, by rw [step, hf]; rfl⟩
    rw [Resolution.Plan.ask.inj h]

/-- A call that goes on while its conflict is recorded writes what resolves it, or nothing. Once the
conflict has changed the call drops its result and changes nothing. -/
theorem resume_cases (hs : s.Valid) (on : Conditions) {i : ℕ} (run : Script.Run) {f : Flight}
    (hf : s.flights[i]? = some f) :
    let c := f.pending.conflict
    let out := s.step on (.resume i run)
    (∃ current, s.replica.registry.get? c.id = some current ∧ current.members.Perm c.members ∧
      out.2 ≠ .ended c.id f.version (.ok .superseded) ∧
      ((∃ v, s.replica.store.write v = .ok out.1.replica.store ∧ v.id = c.id ∧
          v.vector = .mergeAll (current.members.map (·.vector))) ∨
        out.1.replica.store = s.replica.store ∧
          ∀ t, out.2 ≠ .ended c.id f.version (.ok (.resolved t)))) ∨
    (∀ current, s.replica.registry.get? c.id = some current → ¬current.members.Perm c.members) ∧
      out.1.replica.store = s.replica.store ∧ out.1.replica.registry = s.replica.registry ∧
      out.2 = .ended c.id f.version (.ok .superseded) := by
  obtain ⟨resolution, time, -, hfits, hstep⟩ := resume_eq on run hf
  obtain ⟨hsound, -, -⟩ := hs.flight f (List.mem_of_getElem? hf)
  have fits := hfits hsound
  have commits := s.replica.commit_commits on hs.consistent hsound.conflict resolution time
  simp only [hstep]
  generalize s.replica.commit on f.pending.conflict resolution time = out at commits
  cases commits with
  | resolved v current recorded same setup store registry =>
    cases fits with
    | resolved _ id check vector =>
      refine .inl ⟨current, recorded, same, by simp, .inl ⟨v, store, id, vector.trans ?_⟩⟩
      exact VersionVector.mergeAll_congr fun u ↦ (same.map _).symm.mem_iff
  | unresolved reason current recorded same store =>
    exact .inl ⟨current, recorded, same, by simp, .inr ⟨store, by simp⟩⟩
  | failed v e current recorded same fault store =>
    exact .inl ⟨current, recorded, same, by simp, .inr ⟨store, by simp⟩⟩
  | superseded _ changed setup store registry => exact .inr ⟨changed, store, registry, rfl⟩

/-! ## What becomes of a conflict that was resolved -/

/-- A step that takes a recorded conflict away has written a version above all of its members. -/
theorem exists_above_of_cleared {r r' : Replica} {written : Option Version}
    (h : r.Advance written r') {id : String} {c : Conflict} (hc : r.registry.get? id = some c)
    (hgone : r'.registry.get? id = none) :
    ∃ v, r'.Knows v ∧ v.id = id ∧ ∀ m ∈ c.members, m.vector < v.vector := by
  have hknown := Replica.knownVersions_of_recorded hc
  cases h with
  | keep store registry =>
    rw [registry, hc] at hgone
    simp at hgone
  | replace v check above store registry =>
    by_cases hid : id = v.id
    · subst hid
      exact ⟨v, (Replica.Advance.replace v check above store registry).knows_written, rfl,
        hknown ▸ above⟩
    · rw [registry, Registry.get?_clear_ne _ hid, hc] at hgone
      simp at hgone
  | record d sound covers stored store registry =>
    by_cases hid : id = d.id
    · rw [hid, Registry.get?_of_record_self sound registry] at hgone
      simp at hgone
    · rw [Registry.get?_of_record_ne sound registry hid, hc] at hgone
      simp at hgone

theorem not_recorded_again (hs : s.Valid) {a : Action} {id : String} {c : Conflict}
    (hc : s.replica.registry.get? id = some c)
    (hgone : (s.step on a).1.replica.registry.get? id = none) (steps : List (Conditions × Action))
    {d : Conflict} (hd : ((s.step on a).1.run steps).replica.registry.get? id = some d) :
    ¬d.members.Perm c.members := by
  have moves := step_moves hs on a
  obtain ⟨v, knows, rfl, habove⟩ := exists_above_of_cleared moves.advance hc hgone
  -- The version above all members stays covered, which no member of the old conflict can do.
  obtain ⟨w, hw, hle⟩ := (run_knows moves.valid knows steps).covers
  rw [Replica.knownVersions_of_recorded hd] at hw
  exact fun hperm ↦ (habove w (hperm.mem_iff.1 hw)).not_ge hle

/-! ## Stale results -/

/-- A call that begins to wait has recorded the conflict that its plan is made for. It writes only
while the members recorded are exactly those, and what it writes carries the merge of their vectors.
A call whose conflict has changed ends as superseded and changes nothing. A conflict that some step
has taken away is never recorded again, so no two calls resolve it. -/
theorem stale_results_dropped (node : NodeId) (policy : Policy) (limit : Span)
    (steps : List (Conditions × Action)) :
    let s := (fresh node policy limit).run steps
    (∀ on a f, (s.step on a).1.flights = s.flights ++ [f] →
      s.replica.policy.usesScripts = true ∧
      f.pending.plan = Resolution.plan s.replica.policy f.pending.conflict ∧
      (s.step on a).1.replica.registry.get? f.pending.conflict.id = some f.pending.conflict) ∧
    (∀ on a document x t, (s.step on a).2 = .ended document x (.ok (.resolved t)) →
      s.replica.policy.usesScripts = false ∨ ∃ i run, a = .resume i run) ∧
    (∀ on i run f, s.flights[i]? = some f →
      let c := f.pending.conflict
      let out := s.step on (.resume i run)
      ((out.1.replica.store ≠ s.replica.store ∨
          ∃ t, out.2 = .ended c.id f.version (.ok (.resolved t))) →
        ∃ current v, s.replica.registry.get? c.id = some current ∧
          current.members.Perm c.members ∧ s.replica.store.write v = .ok out.1.replica.store ∧
          v.id = c.id ∧ v.vector = .mergeAll (current.members.map (·.vector))) ∧
      ((∃ current, s.replica.registry.get? c.id = some current ∧
          current.members.Perm c.members) →
        out.2 ≠ .ended c.id f.version (.ok .superseded)) ∧
      ((∀ current, s.replica.registry.get? c.id = some current →
          ¬current.members.Perm c.members) →
        out.1.replica.store = s.replica.store ∧ out.1.replica.registry = s.replica.registry ∧
          out.2 = .ended c.id f.version (.ok .superseded))) ∧
    ∀ on a post id c d, s.replica.registry.get? id = some c →
      (s.step on a).1.replica.registry.get? id = none →
      ((s.step on a).1.run post).replica.registry.get? id = some d →
      ¬d.members.Perm c.members := by
  intro s
  have valid : s.Valid := run_valid (fresh_valid node policy limit) steps
  refine ⟨fun on a ↦ (step_starts valid on a).flight, fun on a ↦ (step_starts valid on a).resolved,
    fun on i run f hf ↦ ?_,
    fun on a post id c d hc hgone hd ↦ not_recorded_again valid hc hgone post hd⟩
  intro c out
  rcases resume_cases valid on run hf with
    ⟨current, hget, hperm, hkept, hwrite⟩ | ⟨hchanged, hstore, hregistry, hdropped⟩
  · refine ⟨fun h ↦ ?_, fun _ ↦ hkept, fun hchanged ↦ absurd hperm (hchanged current hget)⟩
    rcases hwrite with ⟨v, hstore, hid, hvector⟩ | ⟨hstore, hopen⟩
    · exact ⟨current, v, hget, hperm, hstore, hid, hvector⟩
    · exact h.elim (fun h ↦ absurd hstore h) fun ⟨t, ht⟩ ↦ absurd ht (hopen t)
  · refine ⟨fun h ↦ ?_, fun ⟨current, hget, hperm⟩ ↦ absurd hperm (hchanged current hget),
      fun _ ↦ ⟨hstore, hregistry, hdropped⟩⟩
    rcases h with h | ⟨t, ht⟩
    · exact absurd hstore h
    · have hne := ht.symm.trans hdropped
      simp at hne

end System

end CausalReplica
