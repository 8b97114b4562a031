import CausalReplica.Proofs.Settled
import Mathlib.Logic.Function.Basic
import Mathlib.Logic.Relation

/-!
# Networks of replicas

A network has one replica for every node. Its steps are local writes and deliveries: a delivery
brings to some node, in its wire form, a version that some node has stored before. Copies are never
used up, so they may come late, out of order, several times or not at all.

Every step visits one node, and stores at most one version there. A version that is new to the
network is the resolution of two copies or one more write of the node, and only a node itself can
bring versions that have seen more of its own writes than it has. So whatever the policy makes of
two versions is all that one has to know to reason about the copies.
-/

namespace CausalReplica

/-- Replicas by their nodes, and every version that any of them has ever stored. -/
structure Network where
  replica : NodeId → Replica
  copies : List Version

namespace Network

/-- Replicas that know no document. -/
def fresh (policy : Policy) (limit : NodeId → Span) : Network :=
  ⟨fun n ↦ .fresh n policy (limit n), []⟩

/-- The network after a call on a document at a node, which leaves a replica behind. -/
def visit (w : Network) (n : NodeId) (id : String) (r : Replica) : Network :=
  ⟨Function.update w.replica n r, w.copies ++ (r.store.get? id).toList⟩

/-- The network after a local write. -/
def write (w : Network) (n : NodeId) (now : Timestamp) (id collection : String)
    (payload : Option Bytes) : Network :=
  w.visit n id ((w.replica n).write ⟨now, .none⟩ id collection payload).1

/-- The network after a delivery of a version in its wire form. -/
def deliver (w : Network) (n : NodeId) (now : Timestamp) (script : Script.Request → Script.Run)
    (v : Version) : Network :=
  w.visit n v.id (((Host.sequential ⟨now, .none⟩ script).receiveWire v.toWire).run (w.replica n)).2

/-- One step of a network. -/
inductive Step (w : Network) : Network → Prop
  /-- A local write, at a time after the last change of the node's version, with counters that the
  wire form keeps. -/
  | write (n : NodeId) (now : Timestamp) (id collection : String) (payload : Option Bytes)
    (later : ∀ v, (w.replica n).store.get? id = some v → v.modified < now)
    (fits : ∀ x, ((w.replica n).write ⟨now, .none⟩ id collection payload).2 = .ok x →
      x.vector.FitsWire) : Step w (w.write n now id collection payload)
  /-- A delivery of a version that some node has stored. -/
  | deliver (n : NodeId) (now : Timestamp) (script : Script.Request → Script.Run) (v : Version)
    (copy : v ∈ w.copies) : Step w (w.deliver n now script v)

/-- A network that steps lead to from replicas that know no document. -/
def Reachable (policy : Policy) (limit : NodeId → Span) (w : Network) : Prop :=
  Relation.ReflTransGen Step (fresh policy limit) w

variable {w w' : Network} {n : NodeId} {p : Policy}

theorem replica_visit_self (w : Network) (n : NodeId) (id : String) (r : Replica) :
    (w.visit n id r).replica n = r := Function.update_self _ _ _

theorem replica_visit_ne (w : Network) {n m : NodeId} (h : m ≠ n) (id : String) (r : Replica) :
    (w.visit n id r).replica m = w.replica m := Function.update_of_ne h _ _

theorem forall_replica_visit {id : String} {r : Replica} {P : NodeId → Replica → Prop}
    (hself : P n r) (hother : ∀ m, m ≠ n → P m (w.replica m)) (m : NodeId) :
    P m ((w.visit n id r).replica m) := by
  by_cases hm : m = n
  · rw [hm, replica_visit_self]
    exact hself
  · rw [replica_visit_ne w hm]
    exact hother m hm

/-- What holds of a network whose policy decides. -/
structure Sound (p : Policy) (w : Network) : Prop where
  node : ∀ n, (w.replica n).node = n
  policy : ∀ n, (w.replica n).policy = p
  settled : ∀ n, (w.replica n).Settled
  stored : ∀ n id v, (w.replica n).store.get? id = some v → v ∈ w.copies
  copies : ∀ v ∈ w.copies, v.check = .ok () ∧ v.vector.FitsWire
  /-- A node's own stored version has seen every write of the node. -/
  own : ∀ v ∈ w.copies, ∀ n, v.vector.writes n ≤ ((w.replica n).seen v.id).writes n

/-- What a step at a node changes in the version of a document that the node stores. -/
inductive Gains (w : Network) (n : NodeId) (document : String) (r' : Replica) : Prop
  | nothing (store : r'.store = (w.replica n).store)
  /-- A copy is stored that has seen more. -/
  | copy (x : Version) (id : x.id = document) (mem : x ∈ w.copies)
    (above : (w.replica n).seen document ≤ x.vector)
    (store : (w.replica n).store.write x = .ok r'.store)
  /-- The stored version and a concurrent copy are resolved. -/
  | merge (u v x : Version) (stored : (w.replica n).store.get? document = some u)
    (mem : v ∈ w.copies) (vid : v.id = document) (concurrent : u.relate v = .concurrent)
    (plan : Resolution.plan (w.replica n).policy ⟨document, [u, v]⟩ = .settled (.resolved x))
    (store : (w.replica n).store.write x = .ok r'.store)
  /-- A version is written that no node has stored before. -/
  | event (x : Version) (id : x.id = document) (check : x.check = .ok ()) (fits : x.vector.FitsWire)
    (later : ∀ u, (w.replica n).store.get? document = some u → u.modified < x.modified)
    (vector : ((w.replica n).seen document).increment n = .ok x.vector)
    (store : (w.replica n).store.write x = .ok r'.store)

theorem deliver_arrives (hw : w.Sound p) (n : NodeId) (now : Timestamp)
    (script : Script.Request → Script.Run) {v : Version} (hv : v ∈ w.copies) :
    ∃ r', w.deliver n now script v = w.visit n v.id r' ∧ r'.setup = (w.replica n).setup ∧
      r'.Settled ∧ (w.replica n).Arrives v r' := by
  obtain ⟨hcheck, hfits⟩ := hw.copies v hv
  obtain ⟨r', o, h, hsetup, hsettled, harrives⟩ :=
    (hw.settled n).receiveWire_arrives now script hcheck hfits
  exact ⟨r', by rw [deliver, h], hsetup, hsettled, harrives⟩

theorem step_gains (hw : w.Sound p) (h : w.Step w') : ∃ n id r', w' = w.visit n id r' ∧
    r'.setup = (w.replica n).setup ∧ r'.Settled ∧ w.Gains n id r' := by
  cases h with
  | write n now id collection payload later fits =>
    rcases (hw.settled n).write_cases now id collection payload with
      ⟨e, h⟩ | ⟨r', x, h, hsettled, hid, hcheck, hmodified, hvec, hstore⟩
    · refine ⟨n, id, w.replica n, by rw [write, h], rfl, hw.settled n, .nothing rfl⟩
    · have hsetup := (w.replica n).setup_write ⟨now, .none⟩ id collection payload
      rw [h] at hsetup
      rw [h] at fits
      rw [hw.node n] at hvec
      refine ⟨n, id, r', by rw [write, h], hsetup, hsettled, ?_⟩
      exact .event x hid hcheck (fits x rfl) (hmodified ▸ later) hvec hstore
  | deliver n now script v copy =>
    obtain ⟨r', h, hsetup, hsettled, harrives⟩ := deliver_arrives hw n now script copy
    refine ⟨n, v.id, r', h, hsetup, hsettled, ?_⟩
    cases harrives with
    | rejected u stored below store => exact .nothing store
    | accepted above store =>
      exact .copy v rfl copy (Replica.le_seen_iff.2 fun u hu ↦ (above u hu).le) store
    | merged u x stored concurrent plan store =>
      exact .merge u v x stored copy rfl concurrent plan store

/-! ## The invariant -/

theorem fresh_sound (hp : p.decides = true) (limit : NodeId → Span) : (fresh p limit).Sound p where
  node _ := rfl
  policy _ := rfl
  settled n := ⟨Replica.fresh_consistent n p (limit n), hp, fun _ ↦ rfl⟩
  stored _ _ v h := absurd h (Option.some_ne_none v).symm
  copies _ hv := absurd hv List.not_mem_nil
  own _ hv := absurd hv List.not_mem_nil

theorem Sound.visit_setup (hw : w.Sound p) {r' : Replica} {id : String}
    (hsetup : r'.setup = (w.replica n).setup) (m : NodeId) :
    ((w.visit n id r').replica m).node = m ∧ ((w.visit n id r').replica m).policy = p := by
  refine forall_replica_visit (P := fun m r ↦ r.node = m ∧ r.policy = p) ⟨?_, ?_⟩ (fun m _ ↦ ?_) m
  · exact (congrArg (fun s ↦ s.1) hsetup).trans (hw.node n)
  · exact (Replica.policy_of_setup hsetup).trans (hw.policy n)
  · exact ⟨hw.node m, hw.policy m⟩

theorem Sound.visit_nothing (hw : w.Sound p) {r' : Replica} (id : String)
    (hsetup : r'.setup = (w.replica n).setup) (hsettled : r'.Settled)
    (hstore : r'.store = (w.replica n).store) :
    (w.visit n id r').Sound p ∧ ∀ v ∈ (w.visit n id r').copies, v ∈ w.copies := by
  -- What the visit adds to the copies is the version that was stored before.
  have hcopies : ∀ v ∈ (w.visit n id r').copies, v ∈ w.copies := by
    intro v hv
    rcases List.mem_append.1 hv with hv | hv
    · exact hv
    · rw [Option.mem_toList, hstore] at hv
      exact hw.stored n id v hv
  have hstores : ∀ m, ((w.visit n id r').replica m).store = (w.replica m).store :=
    forall_replica_visit (P := fun m r ↦ r.store = (w.replica m).store) hstore fun _ _ ↦ rfl
  refine ⟨⟨fun m ↦ (hw.visit_setup hsetup m).1, fun m ↦ (hw.visit_setup hsetup m).2,
    forall_replica_visit hsettled fun m _ ↦ hw.settled m, fun m id' v h ↦ ?_,
    fun v hv ↦ hw.copies v (hcopies v hv), fun v hv m ↦ ?_⟩, hcopies⟩
  · rw [hstores] at h
    exact List.mem_append_left _ (hw.stored m id' v h)
  · rw [Replica.seen, hstores]
    exact hw.own v (hcopies v hv) m

/-- A node that stores a version above what it has seen has seen no less than before. -/
theorem seen_le_visit {r' : Replica} {x : Version}
    (hstore : (w.replica n).store.write x = .ok r'.store)
    (hgrows : (w.replica n).seen x.id ≤ x.vector) (m : NodeId) (id : String) :
    (w.replica m).seen id ≤ ((w.visit n x.id r').replica m).seen id := by
  refine forall_replica_visit (P := fun m r ↦ (w.replica m).seen id ≤ r.seen id) ?_
    (fun _ _ ↦ le_rfl) m
  by_cases hid : id = x.id
  · rw [hid, Replica.seen_of_stored (Store.get?_of_write_self hstore)]
    exact hgrows
  · rw [Replica.seen, Replica.seen, Store.get?_of_write_ne hstore hid]

theorem copies_visit {r' : Replica} {x : Version}
    (hstore : (w.replica n).store.write x = .ok r'.store) :
    (w.visit n x.id r').copies = w.copies ++ [x] := by
  rw [visit, Store.get?_of_write_self hstore]
  rfl

/-- A version that has seen what the node has seen, and of every other node no more than that node
has seen, may be stored. -/
theorem Sound.visit_write (hw : w.Sound p) {r' : Replica} {x : Version}
    (hsetup : r'.setup = (w.replica n).setup) (hsettled : r'.Settled)
    (hstore : (w.replica n).store.write x = .ok r'.store) (hcheck : x.check = .ok ())
    (hfits : x.vector.FitsWire) (hgrows : (w.replica n).seen x.id ≤ x.vector)
    (hown : ∀ m, m ≠ n → x.vector.writes m ≤ ((w.replica m).seen x.id).writes m) :
    (w.visit n x.id r').Sound p ∧ (w.visit n x.id r').copies = w.copies ++ [x] := by
  have hself : r'.store.get? x.id = some x := Store.get?_of_write_self hstore
  have hcopies := copies_visit hstore
  refine ⟨⟨fun m ↦ (hw.visit_setup hsetup m).1, fun m ↦ (hw.visit_setup hsetup m).2,
    forall_replica_visit hsettled fun m _ ↦ hw.settled m, ?_, fun v hv ↦ ?_, fun v hv ↦ ?_⟩,
    hcopies⟩
  · rw [hcopies]
    refine forall_replica_visit
      (P := fun _ r ↦ ∀ id v, r.store.get? id = some v → v ∈ w.copies ++ [x])
      (fun id v h ↦ ?_) fun m _ id v h ↦ List.mem_append_left _ (hw.stored m id v h)
    by_cases hid : id = x.id
    · rw [hid, hself] at h
      obtain rfl := Option.some.inj h
      exact List.mem_append_right _ (List.mem_singleton_self _)
    · rw [Store.get?_of_write_ne hstore hid] at h
      exact List.mem_append_left _ (hw.stored n id v h)
  · rw [hcopies] at hv
    rcases List.mem_append.1 hv with hv | hv
    · exact hw.copies v hv
    · obtain rfl := List.mem_singleton.1 hv
      exact ⟨hcheck, hfits⟩
  · rw [hcopies] at hv
    rcases List.mem_append.1 hv with hv | hv
    · exact fun m ↦ (hw.own v hv m).trans (seen_le_visit hstore hgrows m v.id m)
    · obtain rfl := List.mem_singleton.1 hv
      refine forall_replica_visit
        (P := fun m r ↦ v.vector.writes m ≤ (r.seen v.id).writes m) ?_ hown
      rw [Replica.seen_of_stored hself]

/-- How the copies grow in a step. -/
inductive Grows (p : Policy) (copies : List Version) : List Version → Prop
  | same {copies' : List Version} (sub : ∀ v ∈ copies', v ∈ copies) : Grows p copies copies'
  /-- Two concurrent versions of a document are resolved. -/
  | merged (u v x : Version) (hu : u ∈ copies) (hv : v ∈ copies) (id : u.id = v.id)
    (concurrent : u.relate v = .concurrent)
    (plan : Resolution.plan p ⟨v.id, [u, v]⟩ = .settled (.resolved x)) :
    Grows p copies (copies ++ [x])
  /-- A node writes once more, on top of a version that it has stored if there is one. -/
  | written (n : NodeId) (base : VersionVector) (x : Version)
    (vector : base.increment n = .ok x.vector)
    (last : ∀ v ∈ copies, v.id = x.id → v.vector.writes n ≤ base.writes n)
    (source : base = ⊥ ∨ ∃ u ∈ copies, u.id = x.id ∧ u.vector = base ∧ u.modified < x.modified) :
    Grows p copies (copies ++ [x])

theorem Sound.seen_cases (hw : w.Sound p) (n : NodeId) (id : String) :
    ((w.replica n).store.get? id = none ∧ (w.replica n).seen id = ⊥) ∨
    ∃ u ∈ w.copies, (w.replica n).store.get? id = some u ∧ u.id = id ∧
      (w.replica n).seen id = u.vector := by
  cases h : (w.replica n).store.get? id with
  | none => exact .inl ⟨rfl, by rw [Replica.seen, h]; rfl⟩
  | some u =>
    obtain ⟨hid, -⟩ := (hw.settled n).consistent.stored id u h
    exact .inr ⟨u, hw.stored n id u h, rfl, hid, Replica.seen_of_stored h⟩

/-- The resolution of the stored version and a copy is a version of the document that has seen what
either of them has seen. -/
theorem Sound.resolved_fits (hw : w.Sound p) {u v x : Version}
    (hstored : (w.replica n).store.get? v.id = some u) (hv : v ∈ w.copies)
    (hconc : u.relate v = .concurrent)
    (hplan : Resolution.plan (w.replica n).policy ⟨v.id, [u, v]⟩ = .settled (.resolved x)) :
    x.id = v.id ∧ x.check = .ok () ∧ x.vector = u.vector ⊔ v.vector := by
  obtain ⟨hid, hcheck⟩ := (hw.settled n).consistent.stored v.id u hstored
  have sound := Conflict.Sound.pair ⟨hid, hcheck⟩ ⟨rfl, (hw.copies v hv).1⟩ hconc
  cases sound.fits_of_plan hplan with
  | resolved _ xid xcheck xvector =>
    rw [Conflict.mergedVector_pair] at xvector
    exact ⟨xid, xcheck, xvector⟩

theorem Sound.visit_merge (hw : w.Sound p) {r' : Replica} {u v x : Version}
    (hsetup : r'.setup = (w.replica n).setup) (hsettled : r'.Settled)
    (hstored : (w.replica n).store.get? v.id = some u) (hv : v ∈ w.copies)
    (hconc : u.relate v = .concurrent)
    (hplan : Resolution.plan (w.replica n).policy ⟨v.id, [u, v]⟩ = .settled (.resolved x))
    (hstore : (w.replica n).store.write x = .ok r'.store) :
    (w.visit n v.id r').Sound p ∧ Grows p w.copies (w.visit n v.id r').copies := by
  have hu := hw.stored n v.id u hstored
  obtain ⟨hid, -⟩ := (hw.settled n).consistent.stored v.id u hstored
  obtain ⟨xid, xcheck, xvector⟩ := hw.resolved_fits hstored hv hconc hplan
  have xfits : x.vector.FitsWire := xvector ▸ (hw.copies u hu).2.merge (hw.copies v hv).2
  have hgrows : (w.replica n).seen x.id ≤ x.vector := by
    rw [xid, Replica.seen_of_stored hstored, xvector]
    exact le_sup_left
  -- Both versions are copies, so a merge brings no write that its own node has not seen.
  have hown : ∀ m, x.vector.writes m ≤ ((w.replica m).seen x.id).writes m := fun m ↦ by
    rw [xvector, VersionVector.sup_def, VersionVector.writes_merge, xid]
    exact max_le (hid ▸ hw.own u hu m) (hw.own v hv m)
  obtain ⟨hsound, hcopies⟩ := hw.visit_write hsetup hsettled hstore xcheck xfits hgrows
    fun m _ ↦ hown m
  rw [xid] at hsound hcopies
  rw [hcopies]
  exact ⟨hsound, .merged u v x hu hv hid hconc (hw.policy n ▸ hplan)⟩

theorem Sound.visit_event (hw : w.Sound p) {r' : Replica} {x : Version}
    (hsetup : r'.setup = (w.replica n).setup) (hsettled : r'.Settled) (hcheck : x.check = .ok ())
    (hfits : x.vector.FitsWire)
    (hlater : ∀ u, (w.replica n).store.get? x.id = some u → u.modified < x.modified)
    (hvec : ((w.replica n).seen x.id).increment n = .ok x.vector)
    (hstore : (w.replica n).store.write x = .ok r'.store) :
    (w.visit n x.id r').Sound p ∧ Grows p w.copies (w.visit n x.id r').copies := by
  obtain ⟨-, hother⟩ := VersionVector.writes_of_increment hvec
  have hseen := hw.seen_cases n x.id
  have hown : ∀ m, m ≠ n → x.vector.writes m ≤ ((w.replica m).seen x.id).writes m := by
    intro m hm
    rw [hother m hm]
    rcases hseen with ⟨-, hseen⟩ | ⟨u, hu, -, hid, hseen⟩
    · rw [hseen]
      exact Nat.zero_le _
    · rw [hseen, ← hid]
      exact hw.own u hu m
  obtain ⟨hsound, hcopies⟩ := hw.visit_write hsetup hsettled hstore hcheck hfits
    (VersionVector.lt_of_increment hvec).le hown
  rw [hcopies]
  refine ⟨hsound, .written n _ x hvec (fun v hv hid ↦ hid ▸ hw.own v hv n) ?_⟩
  rcases hseen with ⟨-, hseen⟩ | ⟨u, hu, hstored, hid, hseen⟩
  · exact .inl hseen
  · exact .inr ⟨u, hu, hid, hseen.symm, hlater u hstored⟩

/-- Every step keeps the network sound, and lets the copies grow in one of three ways. -/
theorem Sound.step (hw : w.Sound p) (h : w.Step w') :
    w'.Sound p ∧ Grows p w.copies w'.copies := by
  obtain ⟨n, id, r', rfl, hsetup, hsettled, gains⟩ := step_gains hw h
  cases gains with
  | nothing store =>
    obtain ⟨hsound, hcopies⟩ := hw.visit_nothing id hsetup hsettled store
    exact ⟨hsound, .same hcopies⟩
  | copy x xid mem above store =>
    subst xid
    obtain ⟨hcheck, hfits⟩ := hw.copies x mem
    obtain ⟨hsound, hcopies⟩ := hw.visit_write hsetup hsettled store hcheck hfits above
      fun m _ ↦ hw.own x mem m
    rw [hcopies]
    refine ⟨hsound, .same fun v hv ↦ ?_⟩
    rcases List.mem_append.1 hv with hv | hv
    · exact hv
    · exact List.mem_singleton.1 hv ▸ mem
  | merge u v x stored mem vid concurrent plan store =>
    subst vid
    exact hw.visit_merge hsetup hsettled stored mem concurrent plan store
  | event x xid check fits later vector store =>
    subst xid
    exact hw.visit_event hsetup hsettled check fits later vector store

theorem Reachable.sound {limit : NodeId → Span} (hp : p.decides = true)
    (h : Reachable p limit w) : w.Sound p := by
  induction h with
  | refl => exact fresh_sound hp limit
  | tail _ step ih => exact (ih.step step).1

end Network

end CausalReplica
