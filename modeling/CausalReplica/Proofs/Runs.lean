import CausalReplica.Proofs.System

/-!
# What is true of all runs

The runs here are those of a system that starts with no document known, under any policies, with any
overlap of calls, any answers of scripts and any faults of the store.

* A recorded conflict is one of at least two concurrent versions of its document, and the stored
  version of the document is covered by a member.
* The versions that are written under one document form a strictly increasing causal chain.
* A version that has been handled is covered in all later states.
-/

namespace CausalReplica.System

variable {s : System}

/-- A version of a document arrives, then a concurrent one, then the document is deleted. -/
def sampleRun : List (Conditions × Action) :=
  [(⟨7, .none⟩, .receive (.document "doc" "notes" [1] (.authored ⟨1⟩) 1)),
    (⟨8, .none⟩, .receive (.document "doc" "notes" [2] (.authored ⟨2⟩) 2)),
    (⟨9, .none⟩, .write "doc" "notes" none)]

/-! ## Recorded conflicts -/

/-- Recorded conflicts are sound in every state of every run. So no call fails with a violated
invariant, and the store fails no call but for a fault that it has for some document: no version is
sent to the call for the other kind. -/
theorem recorded_conflicts_sound (node : NodeId) (policy : Policy) (limit : Span)
    (steps : List (Conditions × Action)) :
    let s := (fresh node policy limit).run steps
    (∀ id c, s.replica.registry.get? id = some c →
      c.id = id ∧ 2 ≤ c.members.length ∧ (∀ m ∈ c.members, m.id = id ∧ m.check = .ok ()) ∧
      c.members.Pairwise (fun v w ↦ v.relate w = .concurrent) ∧
      ∃ v, s.replica.store.get? id = some v ∧
        ∃ m ∈ c.members, v.relate m = .dominated ∨ v.relate m = .equal) ∧
    ∀ on a e, (s.step on a).2.error? = some e → (∀ reason, e ≠ .invariant reason) ∧
      ∀ error, e = .store error →
        ∃ id, on.faults.read id = some error ∨ on.faults.write id = some error := by
  intro s
  have valid : s.Valid := run_valid (fresh_valid node policy limit) steps
  refine ⟨fun id c hc ↦ ?_, fun on a e he ↦ ?_⟩
  · obtain ⟨rfl, sound, v, hv, m, hm, hle⟩ := valid.consistent.recorded id c hc
    refine ⟨rfl, sound.two_le_size, sound.member, Conflict.isAntichain_iff.1 sound.antichain, v,
      hv, m, hm, Version.relate_covered_iff.2 hle⟩
  · have expected := (step_moves valid on a).expected e he
    constructor
    · rintro reason rfl
      cases expected
    · rintro error rfl
      cases expected with
      | read h => exact ⟨_, .inl h⟩
      | write h => exact ⟨_, .inr h⟩

/-- Conflicts do get recorded. -/
example :
    (((fresh ⟨3⟩ .none Replica.defaultLimit).run (sampleRun.take 2)).replica.registry.get?
      "doc").isSome := by decide

/-! ## Written versions -/

/-- The version stored at the start and the versions written after it form an increasing chain that
ends with the version stored at the end. -/
theorem chain_of_writes (hs : s.Valid) (steps : List (Conditions × Action)) (id : String) :
    let chain := (s.replica.store.get? id).toList ++ (s.writes steps).filter (·.id = id)
    chain.Pairwise (fun old new ↦ old.vector < new.vector) ∧
      (s.run steps).replica.store.get? id = chain.getLast? := by
  induction steps generalizing s with
  | nil => cases h : s.replica.store.get? id <;> simp [writes, run, h]
  | cons step steps ih =>
    have moves := step_moves hs step.1 step.2
    have advance := moves.advance
    obtain ⟨hchain, hlast⟩ := ih moves.valid
    rw [writes, run]
    cases hw : written (s.step step.1 step.2) with
    | none =>
      rw [hw] at advance
      rw [advance.store_eq] at hchain hlast
      exact ⟨hchain, hlast⟩
    | some v =>
      rw [hw] at advance
      by_cases hid : v.id = id
      · -- The chain goes on from what was written, which is above what was stored.
        subst hid
        rw [advance.get?_written] at hchain hlast
        have hcons : (Option.some v).toList ++ (writes (s.step step.1 step.2).1 steps) =
            v :: writes (s.step step.1 step.2).1 steps := rfl
        rw [hcons, List.filter_cons_of_pos (by simp)]
        cases hold : s.replica.store.get? v.id with
        | none => exact ⟨hchain, hlast⟩
        | some old =>
          obtain ⟨habove, -⟩ := List.pairwise_cons.1 hchain
          have hlt := advance.stored_lt hs.consistent hold
          refine ⟨List.pairwise_cons.2 ⟨fun w hw ↦ ?_, hchain⟩, hlast⟩
          rcases List.mem_cons.1 hw with rfl | hw
          · exact hlt
          · exact hlt.trans (habove w hw)
      · rw [advance.get?_of_ne (Ne.symm hid)] at hchain hlast
        have hcons : (Option.some v).toList ++ (writes (s.step step.1 step.2).1 steps) =
            v :: writes (s.step step.1 step.2).1 steps := rfl
        rw [hcons, List.filter_cons_of_neg (by simp [hid])]
        exact ⟨hchain, hlast⟩

theorem wrote_cases {on : Conditions} {id collection : String} {payload : Option Bytes}
    {v : Version} (h : (s.step on (.write id collection payload)).2 = .wrote id (.ok v)) :
    v.id = id ∧
      s.replica.Advance (some v) (s.step on (.write id collection payload)).1.replica := by
  have writes := Replica.write_writes on s.replica id collection payload
  rw [step] at h ⊢
  generalize s.replica.write on id collection payload = out at writes h ⊢
  cases writes with
  | written _ w advance hid =>
    obtain rfl : w = v := by simpa using h
    exact ⟨hid, advance⟩
  | failed expected => simp at h

/-- The versions written under a document form a strictly increasing causal chain, the last of them
is stored, and no action puts another version in the place of a stored one but a version that
dominates it. A local write dominates the stored version and every member of an open conflict. -/
theorem writes_dominate (node : NodeId) (policy : Policy) (limit : Span)
    (steps : List (Conditions × Action)) :
    let s := (fresh node policy limit).run steps
    (∀ id, let ws := ((fresh node policy limit).writes steps).filter (·.id = id)
      ws.Pairwise (fun old new ↦ new.relate old = .dominates) ∧
        s.replica.store.get? id = ws.getLast?) ∧
    (∀ on a id old, s.replica.store.get? id = some old →
      ∃ new, (s.step on a).1.replica.store.get? id = some new ∧
        (new = old ∨ new.relate old = .dominates)) ∧
    ∀ on id collection payload v,
      (s.step on (.write id collection payload)).2 = .wrote id (.ok v) →
      (∀ old, s.replica.store.get? id = some old → v.relate old = .dominates) ∧
      ∀ c, s.replica.registry.get? id = some c → ∀ m ∈ c.members, v.relate m = .dominates := by
  intro s
  have valid : s.Valid := run_valid (fresh_valid node policy limit) steps
  simp only [Version.relate_eq_dominates_iff]
  refine ⟨fun id ↦ ?_, fun on a id old hold ↦ ?_, fun on id collection payload v hwrite ↦ ?_⟩
  · obtain ⟨hchain, hlast⟩ := chain_of_writes (fresh_valid node policy limit) steps id
    exact ⟨hchain, hlast⟩
  · exact (step_moves valid on a).advance.exists_stored valid.consistent hold
  · obtain ⟨rfl, advance⟩ := wrote_cases hwrite
    refine ⟨fun old hold ↦ advance.stored_lt valid.consistent hold, fun c hc m hm ↦ ?_⟩
    exact advance.above m ((Replica.knownVersions_of_recorded hc).symm ▸ hm)

/-- The sample run writes the first version, and then the deletion above both versions. -/
example :
    ((fresh ⟨3⟩ .none Replica.defaultLimit).writes sampleRun).map (·.tombstone) =
      [false, true] := by decide

/-! ## Handled versions -/

/-- A version that a call has handled is covered in all later states, by a member of the open
conflict of its document or else by the stored version. So it is rejected whenever it arrives again,
which leaves the store, the open conflicts and the last attempts as they are, and whoever reads the
document reads a version that covers it. -/
theorem handled_stays_covered (node : NodeId) (policy : Policy) (limit : Span)
    (pre post : List (Conditions × Action)) (on : Conditions) (a : Action) (x : Version)
    (h : (((fresh node policy limit).run pre).step on a).2.handled? = some x) :
    let s := (fresh node policy limit).run (pre ++ (on, a) :: post)
    (∃ w ∈ s.replica.knownVersions x.id, x.relate w = .dominated ∨ x.relate w = .equal) ∧
    (∀ again redelivery, again.faults.read x.id = none →
      (redelivery = .receive x ∨
        ∃ raw, Version.ofWire raw = .ok x ∧ redelivery = .deliver (.ok raw)) →
      ∃ s' reason, s.step again redelivery = (s', .ended x.id (some x) (.ok (.rejected reason))) ∧
        s'.flights = s.flights ∧ s'.replica.store = s.replica.store ∧
        s'.replica.registry = s.replica.registry ∧ s'.replica.history = s.replica.history) ∧
    ∀ again w, s.replica.read again x.id = .ok (some w) →
      x.relate w = .dominated ∨ x.relate w = .equal := by
  intro s
  -- The call leaves its version known, and no later action makes the replica forget it.
  have moves := step_moves (run_valid (fresh_valid node policy limit) pre) on a
  have knows : s.replica.Knows x := by
    have hrun : s = ((((fresh node policy limit).run pre).step on a).1).run post :=
      run_append _ _ _
    exact hrun ▸ run_knows moves.valid (moves.knows x h) post
  simp only [Version.relate_covered_iff]
  refine ⟨knows.covers, fun again redelivery hread hr ↦ ?_,
    fun again w hread ↦ Replica.read_of_knows knows hread⟩
  let s' : System := ⟨(s.replica.tick .received).tick .rejected, s.flights⟩
  rcases hr with rfl | ⟨raw, hraw, rfl⟩
  · obtain ⟨reason, hreceive⟩ := Replica.receive_of_knows knows hread
    refine ⟨s', reason, ?_, rfl, rfl, rfl, rfl⟩
    rw [step, hreceive]
    rfl
  · obtain ⟨reason, hreceive⟩ := Replica.receiveWire_of_knows hraw knows hread
    obtain ⟨-, hid⟩ := Version.check_of_ofWire hraw
    refine ⟨s', reason, ?_, rfl, rfl, rfl, rfl⟩
    rw [step, Replica.receiveDelivery, hreceive, hid]
    simp only [Except.toOption, Option.bind_some, hraw]
    rfl

/-- The second version of the sample run is handled by an open conflict, and covered by what is
stored after the deletion. -/
theorem handled_stays_covered_sample :
    let start := fresh ⟨3⟩ .none Replica.defaultLimit
    let x : Version := .document "doc" "notes" [2] (.authored ⟨2⟩) 2
    ((start.run (sampleRun.take 1)).step ⟨8, .none⟩ (.receive x)).2.handled? = some x ∧
    ∃ w ∈ (start.run sampleRun).replica.knownVersions "doc",
      x.relate w = .dominated ∨ x.relate w = .equal :=
  ⟨rfl, (handled_stays_covered ⟨3⟩ .none Replica.defaultLimit (sampleRun.take 1)
    (sampleRun.drop 2) ⟨8, .none⟩ (.receive (.document "doc" "notes" [2] (.authored ⟨2⟩) 2)) _
    rfl).1⟩

end CausalReplica.System
