import CausalReplica.Proofs.Ledger
import CausalReplica.Proofs.Winner

/-!
# Interleavings of streams

Every node brings its writes on a document in causal order, one stream for each node, and a replica
meets some interleaving of the streams. Under a policy that decides, what it has seen in the end does
not depend on the interleaving, and nothing is open. What is stored does not either, as long as no
write outranks one that has seen it: where some writes have together seen another one, one of them
has seen it alone, since a write is seen with its number. So ranks respect causality then.

Where clocks are skewed a write may outrank a later one of its own stream. If a concurrent write
arrives between the two, the former wins against it and is stored with what both have seen, so the
latter is merged with it and loses, though it has superseded it. If the two arrive one after the
other, the latter takes the place of the former, and may lose against the concurrent write.
-/

namespace CausalReplica

namespace Version

variable {p : Policy} {id : String} {author : Version → NodeId} {vs ws : List Version}

/-- Writes on one document. Each has a number among the writes of its author, which is what its own
vector counts, and a version that has seen so many of them is that write or dominates it. -/
structure Authored (id : String) (author : Version → NodeId) (vs : List Version) : Prop where
  valid : ∀ v ∈ vs, v.id = id ∧ v.check = .ok ()
  counts : ∀ v ∈ vs, 0 < v.vector.writes (author v)
  sees : ∀ v ∈ vs, ∀ w ∈ vs, v.vector.writes (author v) ≤ w.vector.writes (author v) →
    w = v ∨ w.relate v = .dominates

/-- All versions of a list, each of them once, and those of every author in causal order. -/
def Interleaves (author : Version → NodeId) (vs ws : List Version) : Prop :=
  ws.Perm vs ∧ ws.Pairwise fun v w ↦ author v = author w → w.relate v = .dominates

instance (author : Version → NodeId) (vs ws : List Version) : Decidable (Interleaves author vs ws) :=
  inferInstanceAs (Decidable (ws.Perm vs ∧
    ws.Pairwise fun v w ↦ author v = author w → w.relate v = .dominates))

/-- No version ranks above one that dominates it. -/
def Forward (p : Policy) (vs : List Version) : Prop :=
  ∀ v ∈ vs, ∀ w ∈ vs, w.relate v = .dominates → (p.rankOrder v w).isLE

instance (p : Policy) (vs : List Version) : Decidable (Forward p vs) :=
  inferInstanceAs (Decidable (∀ v ∈ vs, ∀ w ∈ vs, w.relate v = .dominates → (p.rankOrder v w).isLE))

theorem sees_merged {n : NodeId} {k : ℕ} (h : (merged ws).Sees n k) :
    ∃ w ∈ ws, w.vector.Sees n k := by
  obtain ⟨hpos, hk⟩ := h
  induction ws using List.reverseRecOn with
  | nil => exact absurd hk (Nat.not_le.2 hpos)
  | append_singleton ws w ih =>
    rw [merged_concat, VersionVector.sup_def, VersionVector.writes_merge, le_max_iff] at hk
    rcases hk with hk | hk
    · obtain ⟨u, hu, hsees⟩ := ih hk
      exact ⟨u, List.mem_append_left _ hu, hsees⟩
    · exact ⟨w, by simp, hpos, hk⟩

/-- A version that some writes cover together is covered by one of them. -/
theorem Authored.respects (h : Authored id author vs) (hforward : Forward p vs) :
    p.Respects vs := by
  intro v hv ws hne hws hrel
  rw [VersionVector.relate_eq_dominated_iff, VersionVector.relate_eq_equal_iff,
    ← le_iff_lt_or_eq] at hrel
  have hsees : (merged ws).Sees (author v) (v.vector.writes (author v)) :=
    ⟨h.counts v hv, hrel (author v)⟩
  obtain ⟨w, hw, -, hcount⟩ := sees_merged hsees
  rcases h.sees v hv w (hws.subset hw) hcount with rfl | hdominates
  · exact ⟨w, hw, Std.ReflCmp.isLE_rfl⟩
  · exact ⟨w, hw, hforward v hv w (hws.subset hw) hdominates⟩

end Version

namespace Replica

variable {r r' : Replica} {p : Policy} {id : String} {vs : List Version}

/-! ## What has been seen -/

/-- After a version has arrived what it has seen has been seen as well. -/
theorem Arrives.seen_eq {v : Version} (h : r.Arrives v r') (hr : r.Consistent)
    (hv : v.check = .ok ()) : r'.seen v.id = r.seen v.id ⊔ v.vector := by
  cases h with
  | rejected u stored below store =>
    rw [seen, store, ← seen, seen_of_stored stored, sup_eq_left.2 below]
  | accepted above store =>
    rw [seen_of_stored (Store.get?_of_write_self store), eq_comm, sup_eq_right, le_seen_iff]
    exact fun u hu ↦ (above u hu).le
  | merged u x stored concurrent plan store =>
    have sound := Conflict.Sound.pair (hr.stored v.id u stored) ⟨rfl, hv⟩ concurrent
    cases sound.fits_of_plan plan with
    | resolved _ xid xcheck xvector =>
      have xid : x.id = v.id := xid
      rw [seen_of_stored (xid ▸ Store.get?_of_write_self store), seen_of_stored stored, xvector,
        Conflict.mergedVector_pair]

/-- Nothing is open, and what has been seen is what the versions have seen that have arrived. -/
structure Heard (p : Policy) (id : String) (vs : List Version) (r : Replica) : Prop where
  settled : r.Settled
  policy : r.policy = p
  seen : r.seen id = Version.merged vs

theorem Heard.congr {ws : List Version} (h : r.Heard p id ws) (hsame : ∀ v, v ∈ vs ↔ v ∈ ws) :
    r.Heard p id vs :=
  ⟨h.settled, h.policy, h.seen.trans (Version.merged_congr hsame).symm⟩

theorem fresh_heard (hp : p.decides = true) (node : NodeId) (limit : Span) (id : String) :
    (fresh node p limit).Heard p id [] :=
  ⟨⟨fresh_consistent node p limit, hp, fun _ ↦ rfl⟩, rfl, rfl⟩

theorem heard_extends {a : Timestamp × Version} (hid : a.2.id = id) (hcheck : a.2.check = .ok ()) :
    Extends (Heard p id) a := by
  rintro vs r ⟨settled, rfl, seen⟩
  subst hid
  obtain ⟨r', o, hreceive, ho, hsettled, hsetup, harrives⟩ := settled.receive_arrives a.1 hcheck
  refine ⟨r', o, hreceive, ho, hsettled, policy_of_setup hsetup, ?_⟩
  rw [harrives.seen_eq settled.consistent hcheck, Version.merged_concat, seen]

/-- Valid versions have seen something, so once some of them have arrived one is stored. -/
theorem Heard.exists_stored (h : r.Heard p id vs) (hvs : ∀ v ∈ vs, v.check = .ok ())
    (hne : vs ≠ []) : ∃ v, r.store.get? id = some v ∧ v.vector = Version.merged vs := by
  cases hstored : r.store.get? id with
  | some v => exact ⟨v, rfl, (seen_of_stored hstored).symm.trans h.seen⟩
  | none =>
    exfalso
    obtain ⟨v, hv⟩ := List.exists_mem_of_ne_nil vs hne
    obtain ⟨-, -, hvector⟩ := Version.check_eq_ok_iff.1 (hvs v hv)
    have hseen : r.seen id = ⊥ := by
      rw [Replica.seen, hstored]
      rfl
    apply hvector
    rw [← le_bot_iff, ← hseen, h.seen]
    exact Version.le_merged hv

/-! ## Two runs -/

theorem decided_of_arrivals (hp : p.decides = true) (hall : p.Respects vs)
    (hvs : ∀ v ∈ vs, v.id = id ∧ v.check = .ok ()) {arrivals : List (Timestamp × Version)}
    (hmem : ∀ a ∈ arrivals, a.2 ∈ vs) (node : NodeId) (limit : Span)
    (script : Script.Request → Script.Run) :
    ((receiveEach script arrivals).run (fresh node p limit)).2.Decided p id vs
      (arrivals.map (·.2)) := by
  obtain ⟨outcomes, r, hrun, -, -, decided⟩ := run_receiveEach
    (fun a ha ↦ decided_extends hall (hmem a ha) (hvs a.2 (hmem a ha)).1 (hvs a.2 (hmem a ha)).2)
    script (fresh_decided hp node limit id vs)
  rw [hrun]
  exact decided

theorem Decided.stored_eq {ws ws' : List Version} (h : r.Decided p id vs ws)
    (h' : r'.Decided p id vs ws') (hvs : ∀ v ∈ vs, v.id = id) (hsame : ∀ v, v ∈ ws' ↔ v ∈ ws) :
    r.store.get? id = r'.store.get? id := by
  rcases h.keeps with ⟨rfl, hnone⟩ | ⟨m, hm, hstored⟩
  · rcases h'.keeps with ⟨-, hnone'⟩ | ⟨m', hm', -⟩
    · rw [hnone, hnone']
    · exact absurd ((hsame m').1 hm'.mem) List.not_mem_nil
  · rcases h'.keeps with ⟨rfl, -⟩ | ⟨m', hm', hstored'⟩
    · exact absurd ((hsame m).2 hm.mem) List.not_mem_nil
    · have hwins : p.Wins ws m' := hm'.congr fun v ↦ (hsame v).symm
      have hid : m.id = m'.id :=
        (hvs m (h.mem m hm.mem)).trans (hvs m' (h'.mem m' hm'.mem)).symm
      rw [hstored, hstored', Version.merged_congr hsame, hm.withVector_eq hwins hid]

/-- Two interleavings of the same streams, met by replicas that know no document under a policy that
decides. No call fails, and no conflict is open in the end. If there are any writes at all, both
replicas store a version whose vector is the merge of all of theirs. Both store the same version, if
no version ranks above one that dominates it. -/
theorem interleavings_agree (hp : p.decides = true) {author : Version → NodeId}
    (hvs : Version.Authored id author vs) {arrivals arrivals' : List (Timestamp × Version)}
    (h : Version.Interleaves author vs (arrivals.map (·.2)))
    (h' : Version.Interleaves author vs (arrivals'.map (·.2))) (node node' : NodeId)
    (limit limit' : Span) (script script' : Script.Request → Script.Run) :
    ∃ (outcomes outcomes' : List Outcome) (r r' : Replica),
      (receiveEach script arrivals).run (fresh node p limit) = (outcomes.map .ok, r) ∧
      (receiveEach script' arrivals').run (fresh node' p limit') = (outcomes'.map .ok, r') ∧
      (∀ other, r.registry.get? other = none ∧ r'.registry.get? other = none) ∧
      (vs ≠ [] → ∃ v v', r.store.get? id = some v ∧ r'.store.get? id = some v' ∧
        v.vector = Version.merged vs ∧ v.relate v' = .equal) ∧
      (Version.Forward p vs → r.store.get? id = r'.store.get? id) := by
  have hmem : ∀ a ∈ arrivals, a.2 ∈ vs := fun a ha ↦ h.1.subset (List.mem_map_of_mem ha)
  have hmem' : ∀ a ∈ arrivals', a.2 ∈ vs := fun a ha ↦ h'.1.subset (List.mem_map_of_mem ha)
  have hsame : ∀ v, v ∈ arrivals'.map (·.2) ↔ v ∈ arrivals.map (·.2) := fun v ↦
    h'.1.mem_iff.trans h.1.mem_iff.symm
  obtain ⟨outcomes, r, hrun, -, -, heard⟩ := run_receiveEach
    (fun a ha ↦ heard_extends (hvs.valid a.2 (hmem a ha)).1 (hvs.valid a.2 (hmem a ha)).2) script
    (fresh_heard hp node limit id)
  obtain ⟨outcomes', r', hrun', -, -, heard'⟩ := run_receiveEach
    (fun a ha ↦ heard_extends (hvs.valid a.2 (hmem' a ha)).1 (hvs.valid a.2 (hmem' a ha)).2) script'
    (fresh_heard hp node' limit' id)
  have hheard : r.Heard p id vs := heard.congr fun v ↦ h.1.mem_iff.symm
  have hheard' : r'.Heard p id vs := heard'.congr fun v ↦ h'.1.mem_iff.symm
  refine ⟨outcomes, outcomes', r, r', hrun, hrun',
    fun other ↦ ⟨heard.settled.clean other, heard'.settled.clean other⟩, fun hne ↦ ?_,
    fun hforward ↦ ?_⟩
  · obtain ⟨v, hstored, hvector⟩ := hheard.exists_stored (fun v hv ↦ (hvs.valid v hv).2) hne
    obtain ⟨v', hstored', hvector'⟩ := hheard'.exists_stored (fun v hv ↦ (hvs.valid v hv).2) hne
    refine ⟨v, v', hstored, hstored', hvector, ?_⟩
    rw [Version.relate, VersionVector.relate_eq_equal_iff, hvector, hvector']
  · have decided := decided_of_arrivals hp (hvs.respects hforward) hvs.valid hmem node limit script
    have decided' :=
      decided_of_arrivals hp (hvs.respects hforward) hvs.valid hmem' node' limit' script'
    rw [hrun] at decided
    rw [hrun'] at decided'
    exact decided.stored_eq decided' (fun v hv ↦ (hvs.valid v hv).1) hsame

/-- Two writes of one node and a write of another node between them, by clocks that agree. -/
def steady : List Version :=
  [.document "doc" "notes" [1] (.authored ⟨1⟩) 1,
    .document "doc" "notes" [2] (.set .empty ⟨1⟩ 2 (by decide)) 3,
    .document "doc" "notes" [3] (.authored ⟨2⟩) 2]

/-- The write of the other node arrives last, or between the two. -/
theorem interleavings_agree_steady :
    let last : List (Timestamp × Version) := steady.map (7, ·)
    let between : List (Timestamp × Version) := [steady[0], steady[2], steady[1]].map (7, ·)
    let replica := fun (arrivals : List (Timestamp × Version)) ↦
      ((receiveEach (fun _ ↦ ⟨⟨0⟩, .ok .noResult⟩) arrivals).run
        (fresh ⟨3⟩ .latest defaultLimit)).2
    Policy.decides .latest = true ∧ Version.Authored "doc" (·.origin) steady ∧
    Version.Interleaves (·.origin) steady (last.map (·.2)) ∧
    Version.Interleaves (·.origin) steady (between.map (·.2)) ∧ steady ≠ [] ∧
    Version.Forward .latest steady ∧
    ∃ v v', (replica last).store.get? "doc" = some v ∧
      (replica between).store.get? "doc" = some v' ∧ v.relate v' = .equal ∧ v = v' := by
  intro last between replica
  have hp : Policy.decides .latest = true := rfl
  have hvs : Version.Authored "doc" (·.origin) steady := ⟨by decide, by decide, by decide⟩
  have hlast : Version.Interleaves (·.origin) steady (last.map (·.2)) := by decide
  have hbetween : Version.Interleaves (·.origin) steady (between.map (·.2)) := by decide
  have hne : steady ≠ [] := List.cons_ne_nil _ _
  have hforward : Version.Forward .latest steady := by decide
  refine ⟨hp, hvs, hlast, hbetween, hne, hforward, ?_⟩
  obtain ⟨outcomes, outcomes', r, r', hrun, hrun', -, hboth, hsame⟩ :=
    interleavings_agree hp hvs hlast hbetween ⟨3⟩ ⟨3⟩ defaultLimit defaultLimit
      (fun _ ↦ ⟨⟨0⟩, .ok .noResult⟩) fun _ ↦ ⟨⟨0⟩, .ok .noResult⟩
  obtain ⟨v, v', hstored, hstored', -, hequal⟩ := hboth hne
  have heq : some v = some v' := hstored.symm.trans ((hsame hforward).trans hstored')
  simp only [replica, hrun, hrun']
  exact ⟨v, v', hstored, hstored', hequal, Option.some.inj heq⟩

/-- Two writes of one node, whose clock is set back between them, and a write of another node at a
time between theirs. -/
def skewed : List Version :=
  [.document "doc" "notes" [1] (.authored ⟨1⟩) 100,
    .document "doc" "notes" [2] (.set .empty ⟨1⟩ 2 (by decide)) 1,
    .document "doc" "notes" [3] (.authored ⟨2⟩) 50]

/-- With skewed clocks the interleaving does matter. The write that was superseded is stored if the
write of the other node has met it before it was superseded, else the write of the other node. -/
theorem skewed_interleavings_disagree : ¬∀ (id : String) (author : Version → NodeId)
    (vs : List Version) (arrivals arrivals' : List (Timestamp × Version)) (node node' : NodeId)
    (limit limit' : Span) (script script' : Script.Request → Script.Run),
    Version.Authored id author vs → Version.Interleaves author vs (arrivals.map (·.2)) →
    Version.Interleaves author vs (arrivals'.map (·.2)) →
      ((receiveEach script arrivals).run (fresh node .latest limit)).2.store.get? id =
        ((receiveEach script' arrivals').run (fresh node' .latest limit')).2.store.get? id := by
  intro h
  have hvs : Version.Authored "doc" (·.origin) skewed := ⟨by decide, by decide, by decide⟩
  have heq := h "doc" (·.origin) skewed (skewed.map (7, ·))
    ([skewed[0], skewed[2], skewed[1]].map (7, ·)) ⟨3⟩ ⟨3⟩ defaultLimit defaultLimit
    (fun _ ↦ ⟨⟨0⟩, .ok .noResult⟩) (fun _ ↦ ⟨⟨0⟩, .ok .noResult⟩) hvs (by decide) (by decide)
  have hpayloads := congrArg (fun stored ↦ stored.map Version.payload) heq
  exact absurd hpayloads (by decide)

end Replica

end CausalReplica
