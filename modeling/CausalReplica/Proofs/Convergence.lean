import CausalReplica.Proofs.Ledger

/-!
# Convergence under the latest change

Under the policy of the latest change the content that is stored with a vector is that of the latest
of the writes that the vector has seen. Resolutions and deliveries keep this under any policy that
decides. A local write keeps it since it is later than all that it builds on: the clock is past the
stored version.

So two versions of a document with equal vectors have the same content, whatever way they came.
-/

namespace CausalReplica

/-- The version is as late as the latest of the writes that its vector has seen. -/
structure Version.Latest (ledger : Ledger) (v : Version) : Prop where
  below : ∀ n k, v.vector.Sees n k → (latestOrder (ledger v.id n k) v).isLE
  attained : ∃ n k, v.vector.Sees n k ∧ latestOrder (ledger v.id n k) v = .eq

theorem Version.latest_iff_tops {ledger : Ledger} {v : Version} :
    v.Latest ledger ↔ Policy.latest.Tops ledger v :=
  ⟨fun h ↦ ⟨h.below, h.attained⟩, fun h ↦ ⟨h.below, h.attained⟩⟩

namespace Network

variable {copies copies' : List Version}

/-- A ledger explains all copies. -/
def Explained (copies : List Version) : Prop :=
  ∃ ledger : Ledger, ∀ v ∈ copies, v.Latest ledger

theorem explained_iff : Explained copies ↔ Policy.latest.Explains copies := by
  simp only [Explained, Policy.Explains, Version.latest_iff_tops]

theorem Explained.grows (h : Explained copies) (hg : Grows .latest copies copies') :
    Explained copies' := by
  rw [explained_iff] at h ⊢
  cases hg with
  | same sub => exact h.mono sub
  | merged u v x hu hv id concurrent plan => exact h.concat_merged rfl hu hv id plan
  | written n base x vector last source =>
    refine h.concat_written vector last ?_
    rcases source with hbase | ⟨u, hu, hid, hvec, hlater⟩
    · exact .inl hbase
    · refine .inr ⟨u, hu, hid, hvec, ?_⟩
      change (Version.latestOrder u x).isLE
      rw [Version.latestOrder_lt_of_modified_lt hlater]
      rfl

theorem Reachable.explained {limit : NodeId → Span} {w : Network}
    (h : Reachable .latest limit w) : Explained w.copies := by
  induction h with
  | refl => exact explained_iff.2 (Policy.explains_nil _)
  | tail reachable step ih =>
    have sound := Reachable.sound (p := .latest) rfl reachable
    exact ih.grows (sound.step step).2

theorem Reachable.eq_of_vector_eq {limit : NodeId → Span} {w : Network}
    (h : Reachable .latest limit w) {a b : NodeId} {id : String} {u v : Version}
    (hu : (w.replica a).store.get? id = some u) (hv : (w.replica b).store.get? id = some v)
    (hvec : u.vector = v.vector) : u = v := by
  have sound : w.Sound .latest := Reachable.sound rfl h
  exact sound.eq_of_explains (explained_iff.1 h.explained) hu hv hvec

/-- A version that is delivered to another node comes back as what that node stores then. -/
theorem Reachable.exchange {limit : NodeId → Span} {w : Network} (h : Reachable .latest limit w)
    {a b : NodeId} {id : String} {v : Version} (hv : (w.replica a).store.get? id = some v)
    (now now' : Timestamp) (script script' : Script.Request → Script.Run) :
    ∃ u, ((w.deliver b now script v).replica b).store.get? id = some u ∧
      (((w.deliver b now script v).deliver a now' script' u).replica a).store.get? id = some u ∧
      (((w.deliver b now script v).deliver a now' script' u).replica b).store.get? id = some u := by
  have sound : w.Sound .latest := Reachable.sound rfl h
  have hmem := sound.stored a id v hv
  obtain ⟨rfl, hcheck⟩ := (sound.settled a).consistent.stored id v hv
  have hthere : Reachable .latest limit (w.deliver b now script v) :=
    h.tail (.deliver b now script v hmem)
  have sound' : (w.deliver b now script v).Sound .latest := Reachable.sound rfl hthere
  obtain ⟨r, hdeliver, -, -, harrives⟩ := deliver_arrives sound b now script hmem
  obtain ⟨u, hu, hle⟩ := harrives.exists_stored (sound.settled b).consistent hcheck
  rw [hdeliver] at hthere sound' ⊢
  have hub : ((w.visit b v.id r).replica b).store.get? v.id = some u := by
    rw [replica_visit_self, hu]
  obtain ⟨hid, -⟩ := (sound'.settled b).consistent.stored v.id u hub
  -- Nothing has changed at the first node, unless it is the second one as well.
  obtain ⟨x, hx, hxle⟩ : ∃ x, ((w.visit b v.id r).replica a).store.get? v.id = some x ∧
      x.vector ≤ u.vector := by
    by_cases hab : a = b
    · exact ⟨u, hab ▸ hub, le_rfl⟩
    · exact ⟨v, by rw [replica_visit_ne w hab, hv], hle⟩
  obtain ⟨r', hback, -, -, harrives'⟩ :=
    deliver_arrives sound' a now' script' (sound'.stored b v.id u hub)
  have hua : r'.store.get? v.id = some u := by
    rw [← hid] at hx ⊢
    -- Where it is rejected an equal vector is stored already, so the same version is.
    rcases harrives'.stored_of_le hx hxle with hstored | ⟨hstored, hvec⟩
    · exact hstored
    · rw [hstored, hthere.eq_of_vector_eq (hid ▸ hx) hub hvec]
  refine ⟨u, hub, ?_, ?_⟩ <;> rw [hback]
  · rw [replica_visit_self, hua]
  · by_cases hba : b = a
    · rw [hba, replica_visit_self, hua]
    · rw [replica_visit_ne _ hba, hub]

/-- Whatever is written and however copies travel, two nodes that store versions of a document with
equal vectors store the same version. So when a version is delivered to another node, and what that
node stores then is delivered back, both store the same version. -/
theorem stored_versions_converge {limit : NodeId → Span} {w : Network}
    (h : Reachable .latest limit w) :
    (∀ a b id u v, (w.replica a).store.get? id = some u → (w.replica b).store.get? id = some v →
      u.relate v = .equal → u = v) ∧
    ∀ a b id v now now' script script', (w.replica a).store.get? id = some v →
      let there := w.deliver b now script v
      ∃ u, (there.replica b).store.get? id = some u ∧
        let back := there.deliver a now' script' u
        (back.replica a).store.get? id = some u ∧ (back.replica b).store.get? id = some u := by
  refine ⟨fun a b id u v hu hv hrel ↦ ?_, fun a b id v now now' script script' hv ↦ ?_⟩
  · exact h.eq_of_vector_eq hu hv (VersionVector.relate_eq_equal_iff.1 hrel)
  · exact h.exchange hv now now' script script'

/-- Two nodes write a document before they hear of each other. -/
def apart : Network :=
  ((fresh .latest fun _ ↦ Replica.defaultLimit).write ⟨1⟩ 1 "doc" "notes" (some [1])).write ⟨2⟩ 2
    "doc" "notes" (some [2])

/-- Each of the two writes is delivered to the other node. -/
def crossed : Network :=
  let script : Script.Request → Script.Run := fun _ ↦ ⟨⟨0⟩, .ok .noResult⟩
  (apart.deliver ⟨2⟩ 3 script (.document "doc" "notes" [1] (.authored ⟨1⟩) 1)).deliver ⟨1⟩ 3 script
    (.document "doc" "notes" [2] (.authored ⟨2⟩) 2)

theorem apart_reachable : Reachable .latest (fun _ ↦ Replica.defaultLimit) apart := by
  refine .tail (.tail .refl (.write ⟨1⟩ 1 "doc" "notes" (some [1]) ?_ ?_))
    (.write ⟨2⟩ 2 "doc" "notes" (some [2]) ?_ ?_)
  · intro v h
    cases h
  · intro x h
    obtain rfl := Except.ok.inj h
    decide
  · intro v h
    cases h
  · intro x h
    obtain rfl := Except.ok.inj h
    decide

theorem crossed_reachable : Reachable .latest (fun _ ↦ Replica.defaultLimit) crossed :=
  .tail (.tail apart_reachable (.deliver ⟨2⟩ 3 _ _ (by decide))) (.deliver ⟨1⟩ 3 _ _ (by decide))

/-- Both nodes resolve the conflict on their own, and store the same version. -/
theorem stored_versions_converge_crossed : ∃ u v,
    Reachable .latest (fun _ ↦ Replica.defaultLimit) crossed ∧
    (crossed.replica ⟨1⟩).store.get? "doc" = some u ∧
    (crossed.replica ⟨2⟩).store.get? "doc" = some v ∧ u.relate v = .equal ∧ u = v := by
  refine ⟨_, _, crossed_reachable, rfl, rfl, by decide, ?_⟩
  exact (stored_versions_converge crossed_reachable).1 ⟨1⟩ ⟨2⟩ "doc" _ _ rfl rfl (by decide)

end Network

end CausalReplica
