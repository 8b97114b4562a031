import CausalReplica.Proofs.Failure

/-!
# Local writes at other replicas

A local write adds one write of its node to everything that is known of the document. Whoever holds
a known version accepts the write when it arrives, if it is still above that version after it has
been sent. That is a matter of the greatest counter that the wire form has: a counter past it is cut
off, and the write may then say no more than what it was built on.

What is left of the write is above all that it was built on exactly if nothing was cut off, or if
only the new write was cut off and the write closed an open conflict. In that case it still says
what the members of the conflict say together, and no single member says as much. In all other cases
the write is lost on the way, though its node has stored it.
-/

namespace CausalReplica

namespace VersionVector

variable {base v w : VersionVector} {n : NodeId}

theorem CutsTo.fitsWire (h : v.CutsTo w) : w.FitsWire := by
  intro m
  rw [h m]
  exact min_le_right _ _

/-- Cutting off keeps a vector above everything below it that fits the wire. -/
theorem CutsTo.le_iff (h : v.CutsTo w) (hbase : base ≤ v) : base ≤ w ↔ base.FitsWire := by
  constructor
  · exact fun hle ↦ h.fitsWire.mono hle
  · intro hfits m
    have hcut := h m
    have hle := hbase m
    have hm := hfits m
    omega

/-- A write stays above what it was built on exactly if nothing is cut off. -/
theorem CutsTo.lt_iff_of_increment (h : v.CutsTo w) (hinc : base.increment n = .ok v) :
    base < w ↔ v.FitsWire := by
  constructor
  · intro hlt
    have hbase : base.FitsWire := h.fitsWire.mono hlt.le
    obtain ⟨hself, hother⟩ := writes_of_increment hinc
    obtain ⟨m, hm⟩ : ∃ m, ¬w.writes m ≤ base.writes m := not_forall.1 hlt.not_ge
    -- Only the node of the write has a greater counter than before.
    have hmn : m = n := by
      by_contra hne
      have hcut := h m
      rw [hother m hne] at hcut
      omega
    subst hmn
    intro k
    by_cases hk : k = m
    · subst hk
      have hcut := h k
      omega
    · rw [hother k hk]
      exact hbase k
  · intro hfits
    rw [h.eq_of_fitsWire hfits]
    exact lt_of_increment hinc

end VersionVector

namespace Replica

variable {r r' : Replica} {on : Conditions} {v w : Version}

theorem base_le_iff {id : String} {base x : VersionVector} (h : r.base on id = .ok base) :
    base ≤ x ↔ ∀ w ∈ r.knownVersions id, w.vector ≤ x := by
  cases hc : r.registry.get? id with
  | some c =>
    rw [Replica.base, hc] at h
    obtain rfl := Except.ok.inj h
    rw [knownVersions_of_recorded hc, Conflict.mergedVector_le_iff]
  | none =>
    rw [knownVersions_of_clean hc]
    rw [Replica.base, hc, StoreFaults.get?] at h
    cases hf : on.faults.read id with
    | some error => simp [hf] at h
    | none =>
      simp only [hf] at h
      cases hs : r.store.get? id with
      | none =>
        simp only [hs, Except.ok.injEq] at h
        subst h
        simp [← VersionVector.bot_def]
      | some w =>
        simp only [hs, Except.ok.injEq] at h
        subst h
        simp

theorem Consistent.lt_mergedVector (hr : r.Consistent) {c : Conflict} {id : String}
    (hc : r.registry.get? id = some c) (hw : r.store.get? id = some w ∨ w ∈ r.knownVersions id) :
    w.vector < c.mergedVector := by
  obtain ⟨-, hsound, u, hu, m, hm, hle⟩ := hr.recorded id c hc
  rcases hw with hw | hw
  · obtain rfl := Option.some.inj (hu.symm.trans hw)
    exact hle.trans_lt (hsound.lt_mergedVector hm)
  · rw [knownVersions_of_recorded hc] at hw
    exact hsound.lt_mergedVector hw

/-- What is left of a write is above all that was known exactly if nothing was cut off, or if the
write closed a conflict and only the new write was cut off. -/
theorem cut_above_iff (hr : r.Consistent) {id : String} {base x y : VersionVector} {n : NodeId}
    (hbase : r.base on id = .ok base) (hinc : base.increment n = .ok x) (hcut : x.CutsTo y)
    (hne : y ≠ ⊥) :
    (∀ w, r.store.get? id = some w ∨ w ∈ r.knownVersions id → w.vector < y) ↔
      x.FitsWire ∨ ∃ c, r.registry.get? id = some c ∧ c.mergedVector.FitsWire := by
  have hlt : base < x := VersionVector.lt_of_increment hinc
  cases hc : r.registry.get? id with
  | some c =>
    obtain rfl : c.mergedVector = base := by
      rw [Replica.base, hc] at hbase
      exact Except.ok.inj hbase
    have hmerged : c.mergedVector ≤ y ↔ c.mergedVector.FitsWire := hcut.le_iff hlt.le
    constructor
    · intro habove
      have hle : c.mergedVector ≤ y := (base_le_iff hbase).2 fun w hw ↦ (habove w (.inr hw)).le
      exact .inr ⟨c, rfl, hmerged.1 hle⟩
    · rintro (hfits | ⟨d, hd, hfits⟩) w hw
      · rw [hcut.eq_of_fitsWire hfits]
        exact (hr.lt_mergedVector hc hw).trans hlt
      · obtain rfl := Option.some.inj hd
        exact (hr.lt_mergedVector hc hw).trans_le (hmerged.2 hfits)
  | none =>
    have hfits : base < y ↔ x.FitsWire := hcut.lt_iff_of_increment hinc
    have hknown : ∀ w, r.store.get? id = some w ∨ w ∈ r.knownVersions id → w.vector ≤ base := by
      intro w hw
      rw [knownVersions_of_clean hc, Option.mem_toList, or_self] at hw
      refine (base_le_iff hbase).1 le_rfl w ?_
      rwa [knownVersions_of_clean hc, Option.mem_toList]
    constructor
    · intro habove
      refine .inl (hfits.1 ?_)
      -- The stored version is all that the write builds on, and without one it builds on nothing.
      rw [Replica.base, hc, StoreFaults.get?] at hbase
      cases hf : on.faults.read id with
      | some error => simp [hf] at hbase
      | none =>
        simp only [hf] at hbase
        cases hs : r.store.get? id with
        | none =>
          simp only [hs, Except.ok.injEq] at hbase
          subst hbase
          exact bot_lt_iff_ne_bot.2 hne
        | some w =>
          simp only [hs, Except.ok.injEq] at hbase
          subst hbase
          exact habove w (.inl hs)
    · rintro (hx | ⟨c, hsome, -⟩) w hw
      · exact (hknown w hw).trans_lt (hfits.2 hx)
      · simp at hsome

theorem run_receiveWire_of_dominates {raw : WireVersion} (hraw : Version.ofWire raw = .ok v)
    (hopen : r.registry.get? v.id = none) (hw : r.store.get? v.id = some w)
    (h : v.relate w = .dominates) (now : Timestamp) (script : Script.Request → Script.Run) :
    ∃ r', ((Host.sequential ⟨now, .none⟩ script).receiveWire raw).run r =
      (.ok (.accepted v.tombstone), r') ∧ r'.store.get? v.id = some v := by
  obtain ⟨hcheck, -⟩ := Version.check_of_ofWire hraw
  have hknown : (r.tick .received).known ⟨now, .none⟩ v.id = .ok (.clean (some w)) := by
    change r.known ⟨now, .none⟩ v.id = _
    rw [known, hopen, ← hw]
    rfl
  have hjudge : Verdict.judge v (.clean (some w)) = .accept v := by
    rw [Verdict.judge, Verdict.againstStored, h]
  have hstored := (r.tick .received).stored_healthy now v
  obtain ⟨r', hreceive, hstore⟩ : ∃ r', r.receive ⟨now, .none⟩ v =
      (r', .done (.ok (.accepted v.tombstone))) ∧ r'.store.get? v.id = some v := by
    rw [receive, hcheck]
    simp only [process_of_known hknown, hjudge, follow, hstored]
    exact ⟨_, rfl, Dict.find?_insert_self _ _ _⟩
  exact ⟨r', (run_receiveWire _ script hraw).trans (run_receive_of_done hreceive), hstore⟩

end Replica

namespace System

/-- A local write that succeeds can be read from its wire form. What is read dominates every version
of the document that was stored or in conflict before the write exactly if no counter of the write
is past the signed range, or if the write closed an open conflict whose merged vector has no such
counter. Every replica without an open conflict that stores a version which it dominates accepts
it. -/
theorem local_writes_reach_peers {node : NodeId} {policy : Policy} {limit : Span}
    {steps : List (Conditions × Action)} {on : Conditions} {id collection : String}
    {payload : Option Bytes} {r' : Replica} {v : Version}
    (h : ((fresh node policy limit).run steps).replica.write on id collection payload =
      (r', .ok v)) :
    let r := ((fresh node policy limit).run steps).replica
    ∃ u, Version.ofWire v.toWire = .ok u ∧
      ((∀ w, r.store.get? id = some w ∨ w ∈ r.knownVersions id → u.relate w = .dominates) ↔
        v.vector.FitsWire ∨ ∃ c, r.registry.get? id = some c ∧ c.mergedVector.FitsWire) ∧
      ∀ (peer : Replica) w now script, peer.registry.get? id = none →
        peer.store.get? id = some w → u.relate w = .dominates →
        ∃ peer', ((Host.sequential ⟨now, .none⟩ script).receiveWire v.toWire).run peer =
          (.ok (.accepted v.tombstone), peer') ∧ peer'.store.get? id = some u := by
  intro r
  have hr : r.Consistent := (run_valid (fresh_valid node policy limit) steps).consistent
  have writes := Replica.write_writes on r id collection payload
  rw [h] at writes
  clear_value r
  cases writes with
  | written base _ advance hid hbase hinc =>
    have hcheck : v.check = .ok () := advance.knows_written.check
    obtain ⟨y, hread, hcut⟩ := Version.exists_ofWire_toWire hcheck
    have hne : y ≠ ⊥ := (Version.check_eq_ok_iff.1 (Version.check_of_ofWire hread).1).2.2
    refine ⟨v.withVector y, hread, ?_, fun peer w now script hopen hw hrel ↦ ?_⟩
    · rw [← Replica.cut_above_iff hr hbase hinc hcut hne]
      simp only [Version.relate_eq_dominates_iff]
      rfl
    · rw [← hid] at hopen hw ⊢
      exact Replica.run_receiveWire_of_dominates hread hopen hw hrel now script

/-- The greatest counter of the wire form arrives at the node whose counter it is. -/
def lastCounter : List (Conditions × Action) :=
  [(⟨7, .none⟩, .deliver (.ok ⟨"doc", "notes", [1], false, [⟨⟨9⟩, Int64.maxValue⟩], 1, none⟩))]

/-- After that a concurrent version of the document arrives. -/
def lastCounterContested : List (Conditions × Action) :=
  lastCounter ++
    [(⟨8, .none⟩, .deliver (.ok ⟨"doc", "notes", [2], false, [⟨⟨1⟩, 1⟩], 2, none⟩))]

/-- A local write of the document at the node whose counter is the greatest of the wire form. -/
def lastWrite (steps : List (Conditions × Action)) : Replica × Except ReplicaError Version :=
  ((fresh ⟨9⟩ .none Replica.defaultLimit).run steps).replica.write ⟨9, .none⟩ "doc" "notes"
    (some [3])

theorem lastWrite_eq {steps : List (Conditions × Action)} {v : Version}
    (h : v ∈ (lastWrite steps).2.toOption) : ∃ r', lastWrite steps = (r', .ok v) := by
  generalize lastWrite steps = written at h
  obtain ⟨r', error | u⟩ := written
  · cases h
  · obtain rfl := Option.some.inj h
    exact ⟨r', rfl⟩

set_option maxRecDepth 2000 in
/-- The write that closes the conflict says more than any member, though its own counter is cut
off. -/
theorem local_writes_reach_peers_contested :
    ∃ r' v u, lastWrite lastCounterContested = (r', .ok v) ∧ ¬v.vector.FitsWire ∧
      Version.ofWire v.toWire = .ok u ∧
      ∀ w ∈ ((fresh ⟨9⟩ .none Replica.defaultLimit).run lastCounterContested).replica.knownVersions
        "doc", u.relate w = .dominates := by
  have hwritten : ∃ v ∈ (lastWrite lastCounterContested).2.toOption, ¬v.vector.FitsWire := by decide
  have hmerged : ∃ c ∈ ((fresh ⟨9⟩ .none Replica.defaultLimit).run
      lastCounterContested).replica.registry.get? "doc", c.mergedVector.FitsWire := by decide
  obtain ⟨v, hv, hpast⟩ := hwritten
  obtain ⟨r', hwrite⟩ := lastWrite_eq hv
  obtain ⟨u, hread, hdominates, -⟩ := local_writes_reach_peers hwrite
  exact ⟨r', v, u, hwrite, hpast, hread, fun w hw ↦ hdominates.2 (.inr hmerged) w (.inr hw)⟩

set_option maxRecDepth 2000 in
/-- A local write is lost on the way when its node has the greatest counter of the wire form: what
is read of it has seen exactly what the stored version has seen, so whoever holds that version
rejects it. -/
theorem last_counter_write_is_lost : ¬∀ (node : NodeId) (policy : Policy) (limit : Span)
    (steps : List (Conditions × Action)) (on : Conditions) (id collection : String)
    (payload : Option Bytes) (r' : Replica) (v : Version),
    let r := ((fresh node policy limit).run steps).replica
    r.write on id collection payload = (r', .ok v) →
    ∃ u, Version.ofWire v.toWire = .ok u ∧
      ∀ w, r.store.get? id = some w ∨ w ∈ r.knownVersions id → u.relate w = .dominates := by
  intro h
  have hlost : ∃ v ∈ (lastWrite lastCounter).2.toOption,
      ∃ w ∈ ((fresh ⟨9⟩ .none Replica.defaultLimit).run lastCounter).replica.store.get? "doc",
        ∀ u ∈ (Version.ofWire v.toWire).toOption, u.relate w = .equal := by decide
  obtain ⟨v, hv, w, hw, hequal⟩ := hlost
  obtain ⟨r', hwrite⟩ := lastWrite_eq hv
  obtain ⟨u, hread, hdominates⟩ := h _ _ _ _ _ _ _ _ r' v hwrite
  have hu : u ∈ (Version.ofWire v.toWire).toOption := by
    rw [hread]
    rfl
  have hboth := (hdominates w (.inl hw)).symm.trans (hequal u hu)
  cases hboth

end System

end CausalReplica
