import CausalReplica.Proofs.Ledger

/-!
# Deletions that last

Under the policy of tombstones the content that is stored with a vector ought to be that of a
deletion, if the vector has seen one, and else that of the latest write. A resolution finds it: the
tombstone of either side wins, and it ranks with all that both sides have seen. A deletion is the
greatest of all that it builds on, and so is a write where nothing was deleted before.

A document that is written again on top of its tombstone is not. It has seen the deletion and takes
its place, yet it is a live document. Once the tombstone has been merged with a concurrent write,
its vector does not tell any more that the new document has seen it. The two are concurrent then,
and the tombstone wins. Where the new document came first it is the concurrent write that is
resolved against it. Both ways end with the same vector, but not with the same version.

So nodes agree as long as a deleted document stays deleted, and they need not agree otherwise.
-/

namespace CausalReplica

/-- What is later is no less among tombstones, unless it is a live document in place of one. -/
theorem Version.tombstoneOrder_isLE_of_modified_lt {a b : Version} (h : a.modified < b.modified)
    (hgone : a.tombstone = true → b.tombstone = true) : (tombstoneOrder a b).isLE := by
  have hlatest : (latestOrder a b).isLE := by
    rw [latestOrder_lt_of_modified_lt h]
    rfl
  by_cases hb : b.tombstone = true
  · exact tombstoneOrder_isLE_of_tombstone hb fun _ ↦ hlatest
  · have ha : ¬a.tombstone = true := fun ha ↦ hb (hgone ha)
    rw [Bool.not_eq_true] at ha hb
    exact tombstoneOrder_isLE_of_live ha hb hlatest

namespace Network

variable {w w' : Network} {n : NodeId} {limit : NodeId → Span}

/-- One step of a network in which deletions last: a node that stores the tombstone of a document
does not write the document again, it may only delete it once more. -/
inductive Lasting (w : Network) : Network → Prop
  | write (n : NodeId) (now : Timestamp) (id collection : String) (payload : Option Bytes)
    (later : ∀ v, (w.replica n).store.get? id = some v → v.modified < now)
    (fits : ∀ x, ((w.replica n).write ⟨now, .none⟩ id collection payload).2 = .ok x →
      x.vector.FitsWire)
    (gone : ∀ v, (w.replica n).store.get? id = some v → v.tombstone = true → payload = none) :
    Lasting w (w.write n now id collection payload)
  | deliver (n : NodeId) (now : Timestamp) (script : Script.Request → Script.Run) (v : Version)
    (copy : v ∈ w.copies) : Lasting w (w.deliver n now script v)

theorem Lasting.step (h : w.Lasting w') : w.Step w' := by
  cases h with
  | write n now id collection payload later fits gone =>
    exact .write n now id collection payload later fits
  | deliver n now script v copy => exact .deliver n now script v copy

theorem reachable_of_lasting (h : Relation.ReflTransGen Lasting (fresh .tombstone limit) w) :
    Reachable .tombstone limit w :=
  Relation.ReflTransGen.mono (fun _ _ ↦ Lasting.step) _ _ h

/-- No delivery needs another ledger, whatever the policy decides by. -/
theorem Sound.explains_deliver {p : Policy} (hp : p.decides = true) (hw : w.Sound p)
    (h : p.Explains w.copies) (n : NodeId) (now : Timestamp)
    (script : Script.Request → Script.Run) {v : Version} (hv : v ∈ w.copies) :
    p.Explains (w.deliver n now script v).copies := by
  obtain ⟨r', hdeliver, hsetup, hsettled, harrives⟩ := deliver_arrives hw n now script hv
  rw [hdeliver]
  cases harrives with
  | rejected u stored below store =>
    exact h.mono (hw.visit_nothing v.id hsetup hsettled store).2
  | accepted above store =>
    rw [copies_visit store]
    exact h.mono (List.forall_mem_append.2 ⟨fun _ hu ↦ hu, List.forall_mem_singleton.2 hv⟩)
  | merged u x stored concurrent plan store =>
    obtain ⟨hid, -⟩ := (hw.settled n).consistent.stored v.id u stored
    obtain ⟨xid, -⟩ := hw.resolved_fits stored hv concurrent plan
    rw [← xid, copies_visit store]
    rw [hw.policy n] at plan
    exact h.concat_merged hp (hw.stored n v.id u stored) hv hid plan

/-- A write is entered in the ledger: it is a deletion, or it builds on no deletion. -/
theorem Lasting.explains (hw : w.Sound .tombstone) (h : Policy.tombstone.Explains w.copies)
    (hstep : w.Lasting w') : Policy.tombstone.Explains w'.copies := by
  cases hstep with
  | deliver n now script v copy => exact hw.explains_deliver rfl h n now script copy
  | write n now id collection payload later fits gone =>
    rcases (hw.settled n).write_cases now id collection payload with
      ⟨e, hwrite⟩ | ⟨r', x, hwrite, -, rfl, -, rfl, hvec, hstore⟩
    · rw [Network.write, hwrite]
      exact h.mono (hw.visit_nothing id rfl (hw.settled n) rfl).2
    · rw [Network.write, hwrite, copies_visit hstore]
      refine h.concat_written hvec (fun v hv hid ↦ ?_) ?_
      · rw [← hid, hw.node n]
        exact hw.own v hv n
      · rcases hw.seen_cases n x.id with ⟨-, hseen⟩ | ⟨u, hu, hstored, hid, hseen⟩
        · exact .inl hseen
        · refine .inr ⟨u, hu, hid, hseen.symm, ?_⟩
          refine Version.tombstoneOrder_isLE_of_modified_lt (later u hstored) fun hu ↦ ?_
          obtain ⟨vector, hform⟩ := Replica.form_of_write (congrArg Prod.snd hwrite)
          rw [gone u hstored hu] at hform
          rw [hform]
          rfl

theorem explains_of_lasting (h : Relation.ReflTransGen Lasting (fresh .tombstone limit) w) :
    Policy.tombstone.Explains w.copies := by
  induction h with
  | refl => exact Policy.explains_nil _
  | tail lasting step ih =>
    have sound := (reachable_of_lasting lasting).sound rfl
    exact step.explains sound ih

/-- Under the policy of tombstones, as long as no node writes a document again that it has deleted,
two nodes that store versions of a document with equal vectors store the same version. -/
theorem lasting_deletions_converge
    (h : Relation.ReflTransGen Lasting (fresh .tombstone limit) w) {a b : NodeId} {id : String}
    {u v : Version} (hu : (w.replica a).store.get? id = some u)
    (hv : (w.replica b).store.get? id = some v) (hrel : u.relate v = .equal) : u = v := by
  have sound := (reachable_of_lasting h).sound rfl
  exact sound.eq_of_explains (explains_of_lasting h) hu hv (VersionVector.relate_eq_equal_iff.1 hrel)

/-- One node deletes a document that another one writes later, before they hear of each other. -/
def deletedApart : Network :=
  ((fresh .tombstone fun _ ↦ Replica.defaultLimit).write ⟨1⟩ 10 "doc" "notes" none).write ⟨2⟩ 20
    "doc" "notes" (some [2])

/-- The tombstone of the one node. -/
def deletion : Version := .deleted "doc" "notes" (.authored ⟨1⟩) 10

/-- The document of the other node. -/
def kept : Version := .document "doc" "notes" [2] (.authored ⟨2⟩) 20

/-- The deletion and the write are delivered to the other node each. -/
def deletedCrossed : Network :=
  let script : Script.Request → Script.Run := fun _ ↦ ⟨⟨0⟩, .ok .noResult⟩
  (deletedApart.deliver ⟨2⟩ 21 script deletion).deliver ⟨1⟩ 21 script kept

theorem deletedApart_lasting :
    Relation.ReflTransGen Lasting (fresh .tombstone fun _ ↦ Replica.defaultLimit) deletedApart := by
  refine .tail (.tail .refl (.write ⟨1⟩ 10 "doc" "notes" none ?_ ?_ ?_))
    (.write ⟨2⟩ 20 "doc" "notes" (some [2]) ?_ ?_ ?_)
  · intro v h
    cases h
  · intro x h
    obtain rfl := Except.ok.inj h
    decide
  · intro v h
    cases h
  · intro v h
    cases h
  · intro x h
    obtain rfl := Except.ok.inj h
    decide
  · intro v h
    cases h

/-- Both nodes resolve the conflict to the tombstone on their own. -/
theorem lasting_deletions_converge_crossed : ∃ u v,
    Relation.ReflTransGen Lasting (fresh .tombstone fun _ ↦ Replica.defaultLimit) deletedCrossed ∧
    (deletedCrossed.replica ⟨1⟩).store.get? "doc" = some u ∧
    (deletedCrossed.replica ⟨2⟩).store.get? "doc" = some v ∧ u.relate v = .equal ∧ u = v := by
  have hlasting : Relation.ReflTransGen Lasting (fresh .tombstone fun _ ↦ Replica.defaultLimit)
      deletedCrossed :=
    .tail (.tail deletedApart_lasting (.deliver ⟨2⟩ 21 _ _ (by decide)))
      (.deliver ⟨1⟩ 21 _ _ (by decide))
  obtain ⟨u, hu⟩ : ∃ u, (deletedCrossed.replica ⟨1⟩).store.get? "doc" = some u := ⟨_, rfl⟩
  obtain ⟨v, hv⟩ : ∃ v, (deletedCrossed.replica ⟨2⟩).store.get? "doc" = some v := ⟨_, rfl⟩
  have hrel : u.relate v = .equal := by
    obtain rfl := Option.some.inj hu
    obtain rfl := Option.some.inj hv
    decide
  exact ⟨u, v, hlasting, hu, hv, hrel, lasting_deletions_converge hlasting hu hv hrel⟩

/-- A third node hears of the deletion and writes the document again. -/
def revived : Network :=
  let script : Script.Request → Script.Run := fun _ ↦ ⟨⟨0⟩, .ok .noResult⟩
  (deletedApart.deliver ⟨3⟩ 21 script deletion).write ⟨3⟩ 30 "doc" "notes" (some [3])

/-- The document of the third node, which has seen the deletion. -/
def revival : Version :=
  .document "doc" "notes" [3] ((VersionVector.authored ⟨1⟩).merge (.authored ⟨3⟩)) 30

/-- The deletion and then the revival are delivered to the node that has kept the document, and the
kept document is delivered to the node that has revived it. -/
def revivedCrossed : Network :=
  let script : Script.Request → Script.Run := fun _ ↦ ⟨⟨0⟩, .ok .noResult⟩
  ((revived.deliver ⟨2⟩ 31 script deletion).deliver ⟨2⟩ 31 script revival).deliver ⟨3⟩ 31 script kept

theorem revivedCrossed_reachable :
    Reachable .tombstone (fun _ ↦ Replica.defaultLimit) revivedCrossed := by
  have hrevived : Reachable .tombstone (fun _ ↦ Replica.defaultLimit) revived := by
    refine .tail (.tail (reachable_of_lasting deletedApart_lasting)
      (.deliver ⟨3⟩ 21 _ _ (by decide)))
      (.write ⟨3⟩ 30 "doc" "notes" (some [3]) ?_ ?_)
    · intro v h
      obtain rfl := Option.some.inj h
      decide
    · intro x h
      obtain rfl := Except.ok.inj h
      decide
  exact .tail (.tail (.tail hrevived (.deliver ⟨2⟩ 31 _ _ (by decide)))
    (.deliver ⟨2⟩ 31 _ _ (by decide))) (.deliver ⟨3⟩ 31 _ _ (by decide))

/-- Without the condition nodes need not agree: of two nodes that have seen the same deletion, write
and revival, one stores the tombstone and the other one the revived document. -/
theorem revived_document_diverges : ¬∀ (limit : NodeId → Span) (w : Network),
    Reachable .tombstone limit w → ∀ (a b : NodeId) (id : String) (u v : Version),
      (w.replica a).store.get? id = some u → (w.replica b).store.get? id = some v →
        u.relate v = .equal → u = v := by
  intro h
  have heq := h _ _ revivedCrossed_reachable ⟨2⟩ ⟨3⟩ "doc" _ _ rfl rfl (by decide)
  have hkinds := congrArg Version.tombstone heq
  exact absurd hkinds (by decide)

end Network

end CausalReplica
