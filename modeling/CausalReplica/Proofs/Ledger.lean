import CausalReplica.Proofs.Network
import CausalReplica.Proofs.Rank

/-!
# Ledgers

Every vector stands for a set of writes, those that it has seen, and a ledger says which version
each write was. Under a policy that decides, the content that is stored with a vector ought to be
that of the greatest of these writes in the ranks of the policy:

* a delivery that is accepted moves a version as it is;
* the winner of two concurrent versions is the greatest write that either of them has seen;
* a local write is the greatest of all that it has seen, if it is no less than what it builds on.

Where that holds of all versions, two of them with equal vectors have the same content, whatever way
they came. Only the last of the three points asks for something, and each policy asks for something
else there.
-/

namespace CausalReplica

/-- The write is one that the vector has seen, the writes of each node counted from one. -/
def VersionVector.Sees (v : VersionVector) (n : NodeId) (k : ℕ) : Prop := 0 < k ∧ k ≤ v.writes n

/-- The writes on each document by their nodes and numbers. -/
abbrev Ledger := String → NodeId → ℕ → Version

namespace Policy

variable {p : Policy} {ledger : Ledger} {u v : Version}

/-- The version ranks with the greatest of the writes that its vector has seen. -/
structure Tops (p : Policy) (ledger : Ledger) (v : Version) : Prop where
  below : ∀ n k, v.vector.Sees n k → (p.rankOrder (ledger v.id n k) v).isLE
  attained : ∃ n k, v.vector.Sees n k ∧ p.rankOrder (ledger v.id n k) v = .eq

namespace Tops

theorem isLE_of_le (hu : p.Tops ledger u) (hv : p.Tops ledger v) (hid : u.id = v.id)
    (h : u.vector ≤ v.vector) : (p.rankOrder u v).isLE := by
  obtain ⟨n, k, ⟨hpos, hk⟩, heq⟩ := hu.attained
  have hle := hv.below n k ⟨hpos, hk.trans (h n)⟩
  rw [← hid, Std.TransCmp.congr_left heq] at hle
  exact hle

theorem eq_of_vector_eq (hu : p.Tops ledger u) (hv : p.Tops ledger v) (hid : u.id = v.id)
    (h : u.vector = v.vector) : u = v := by
  have heq : p.rankOrder u v = .eq := Std.OrientedCmp.isLE_antisymm (hu.isLE_of_le hv hid h.le)
    (hv.isLE_of_le hu hid.symm h.ge)
  have hcontent := withVector_eq_of_rankOrder_eq hid heq v.vector
  rw [← h] at hcontent
  calc u = u.withVector u.vector := rfl
    _ = v.withVector u.vector := hcontent
    _ = v := by rw [h]; rfl

theorem congr {ledger' : Ledger} (hv : p.Tops ledger v)
    (h : ∀ n k, v.vector.Sees n k → ledger' v.id n k = ledger v.id n k) : p.Tops ledger' v := by
  refine ⟨fun n k hk ↦ ?_, ?_⟩
  · rw [h n k hk]
    exact hv.below n k hk
  · obtain ⟨n, k, hk, heq⟩ := hv.attained
    exact ⟨n, k, hk, by rw [h n k hk, heq]⟩

/-- The winner of two versions, with both vectors merged, ranks with all their writes. -/
theorem merge (hp : p.decides = true) (hu : p.Tops ledger u) (hv : p.Tops ledger v)
    (hid : u.id = v.id) {x : Version}
    (hplan : Resolution.plan p ⟨v.id, [u, v]⟩ = .settled (.resolved x)) : p.Tops ledger x := by
  obtain ⟨m, hm, hwinner⟩ := exists_plan (c := ⟨v.id, [u, v]⟩) hp (by simp)
  obtain rfl : (Conflict.mk v.id [u, v]).restamped m = x :=
    Resolution.resolved.inj (Resolution.Plan.settled.inj (hwinner.symm.trans hplan))
  have hvec : ((Conflict.mk v.id [u, v]).restamped m).vector = u.vector ⊔ v.vector :=
    Conflict.mergedVector_pair v.id u v
  -- The content is that of a member, which ranks with the writes that it has seen itself.
  have hm' : p.Tops ledger m ∧ m.id = v.id ∧ m.vector ≤ u.vector ⊔ v.vector := by
    rcases List.mem_pair.1 hm.mem with rfl | rfl
    · exact ⟨hu, hid, le_sup_left⟩
    · exact ⟨hv, rfl, le_sup_right⟩
  obtain ⟨hmtops, hmid, hmle⟩ := hm'
  constructor
  · rintro n k ⟨hpos, hk⟩
    rw [hvec, VersionVector.sup_def, VersionVector.writes_merge, le_max_iff] at hk
    rw [Conflict.restamped, rankOrder_withVector_right]
    change (p.rankOrder (ledger m.id n k) m).isLE
    rw [hmid]
    -- A write that the merge has seen was seen by a member, which the winner is no less than.
    rcases hk with hk | hk
    · exact Std.TransCmp.isLE_trans (hid ▸ hu.below n k ⟨hpos, hk⟩) (hm.isLE u (by simp))
    · exact Std.TransCmp.isLE_trans (hv.below n k ⟨hpos, hk⟩) (hm.isLE v (by simp))
  · obtain ⟨n, k, ⟨hpos, hk⟩, heq⟩ := hmtops.attained
    refine ⟨n, k, ⟨hpos, hvec ▸ hk.trans (hmle n)⟩, ?_⟩
    rw [Conflict.restamped, rankOrder_withVector_right]
    exact heq

/-- A write that is no less than what it builds on ranks with all the writes that it has seen. -/
theorem write {n : NodeId} {base : VersionVector} {x : Version}
    (hvec : base.increment n = .ok x.vector) (hx : ledger x.id n (base.writes n + 1) = x)
    (hbase : base = ⊥ ∨ ∃ u : Version, p.Tops ledger u ∧ u.id = x.id ∧ u.vector = base ∧
      (p.rankOrder u x).isLE) : p.Tops ledger x := by
  obtain ⟨hself, hother⟩ := VersionVector.writes_of_increment hvec
  refine ⟨fun m k ⟨hpos, hk⟩ ↦ ?_, n, base.writes n + 1, ⟨Nat.succ_pos _, hself.ge⟩, ?_⟩
  · -- Every other write than the new one is among those of the base.
    by_cases hnew : m = n ∧ k = base.writes n + 1
    · obtain ⟨rfl, rfl⟩ := hnew
      rw [hx]
      exact Std.ReflCmp.isLE_rfl
    · have hold : k ≤ base.writes m := by
        by_cases hm : m = n
        · rw [hm, hself] at hk
          rw [hm]
          exact Nat.le_of_lt_succ (hk.lt_of_ne fun h ↦ hnew ⟨hm, h⟩)
        · exact hother m hm ▸ hk
      rcases hbase with rfl | ⟨u, hu, hid, rfl, hle⟩
      · exact absurd hold (Nat.not_le.2 hpos)
      · rw [← hid]
        exact Std.TransCmp.isLE_trans (hu.below m k ⟨hpos, hold⟩) hle
  · rw [hx]
    exact Std.ReflCmp.compare_self

end Tops

/-! ## Growing collections of versions -/

variable {copies : List Version} {x : Version}

/-- Some ledger has all versions of the list rank with the writes that they have seen. -/
def Explains (p : Policy) (copies : List Version) : Prop :=
  ∃ ledger : Ledger, ∀ v ∈ copies, p.Tops ledger v

theorem explains_nil (p : Policy) : p.Explains [] :=
  ⟨fun _ _ _ ↦ .document "" "" [] .empty 0, fun _ hv ↦ absurd hv List.not_mem_nil⟩

namespace Explains

theorem mono {copies' : List Version} (h : p.Explains copies) (hsub : ∀ v ∈ copies', v ∈ copies) :
    p.Explains copies' := by
  obtain ⟨ledger, hl⟩ := h
  exact ⟨ledger, fun v hv ↦ hl v (hsub v hv)⟩

theorem eq_of_vector_eq (h : p.Explains copies) (hu : u ∈ copies) (hv : v ∈ copies)
    (hid : u.id = v.id) (hvec : u.vector = v.vector) : u = v := by
  obtain ⟨ledger, hl⟩ := h
  exact (hl u hu).eq_of_vector_eq (hl v hv) hid hvec

theorem concat_merged (h : p.Explains copies) (hp : p.decides = true) (hu : u ∈ copies)
    (hv : v ∈ copies) (hid : u.id = v.id)
    (hplan : Resolution.plan p ⟨v.id, [u, v]⟩ = .settled (.resolved x)) :
    p.Explains (copies ++ [x]) := by
  obtain ⟨ledger, hl⟩ := h
  refine ⟨ledger, List.forall_mem_append.2 ⟨hl, List.forall_mem_singleton.2 ?_⟩⟩
  exact (hl u hu).merge hp (hl v hv) hid hplan

/-- A write whose number is past all that has been seen is entered in the ledger. -/
theorem concat_written (h : p.Explains copies) {n : NodeId} {base : VersionVector}
    (hvec : base.increment n = .ok x.vector)
    (hlast : ∀ v ∈ copies, v.id = x.id → v.vector.writes n ≤ base.writes n)
    (hbase : base = ⊥ ∨ ∃ u ∈ copies, u.id = x.id ∧ u.vector = base ∧ (p.rankOrder u x).isLE) :
    p.Explains (copies ++ [x]) := by
  obtain ⟨ledger, hl⟩ := h
  let ledger' : Ledger := fun id m k ↦
    if id = x.id ∧ m = n ∧ k = base.writes n + 1 then x else ledger id m k
  have hold : ∀ v ∈ copies, p.Tops ledger' v := by
    intro v hv
    refine (hl v hv).congr fun m k ⟨_, hk⟩ ↦ if_neg ?_
    rintro ⟨hid, rfl, rfl⟩
    have hle := hlast v hv hid
    omega
  refine ⟨ledger', List.forall_mem_append.2 ⟨hold, List.forall_mem_singleton.2 ?_⟩⟩
  refine .write hvec (if_pos ⟨rfl, rfl, rfl⟩) ?_
  rcases hbase with h | ⟨u, hu, hid, hvec, hle⟩
  · exact .inl h
  · exact .inr ⟨u, hold u hu, hid, hvec, hle⟩

end Explains

end Policy

/-- Where all copies of a network are explained, nodes that have seen the same writes of a document
store the same version of it. -/
theorem Network.Sound.eq_of_explains {p : Policy} {w : Network} (hw : w.Sound p)
    (h : p.Explains w.copies) {a b : NodeId} {id : String} {u v : Version}
    (hu : (w.replica a).store.get? id = some u) (hv : (w.replica b).store.get? id = some v)
    (hvec : u.vector = v.vector) : u = v := by
  obtain ⟨huid, -⟩ := (hw.settled a).consistent.stored id u hu
  obtain ⟨hvid, -⟩ := (hw.settled b).consistent.stored id v hv
  exact h.eq_of_vector_eq (hw.stored a id u hu) (hw.stored b id v hv) (huid.trans hvid.symm) hvec

end CausalReplica
