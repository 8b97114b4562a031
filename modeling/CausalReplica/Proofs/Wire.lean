import CausalReplica.Proofs.Version
import CausalReplica.Version.Wire
import Mathlib.Data.List.Perm.Basic
import Mathlib.Order.MinMax

/-!
# What the wire keeps

A list of entries is read as a vector exactly if it lists that vector: it names no node twice, it
gives every node that it names the counter of the node, and nodes that it does not name have none.
Reading walks over the entries from the front, so the nodes read so far and the nodes still to come
are distinct; that is the invariant of the induction. In what order the entries stand, and whether
nodes without writes are among them, makes no difference to what they list.

The wire form of a vector lists it as far as the signed range goes. So a version that passes its
check and whose counters are within that range is read back as it was, its origin included.
-/

namespace CausalReplica

/-- A counter past the signed range is sent as the greatest one of the range. -/
theorem WireEntry.toInt_ofEntry (e : NodeId × UInt64) :
    (ofEntry e).counter.toInt = min (e.2.toNat : ℤ) Int64.maxValue.toInt := by
  have hmax : Int64.maxValue.toInt = 2 ^ 63 - 1 := Int64.toInt_maxValue
  have hnat : e.2.toBitVec.toNat = e.2.toNat := rfl
  rw [ofEntry]
  split <;> rename_i h
  · rw [min_eq_left h, Int64.toInt, UInt64.toBitVec_toInt64,
      BitVec.toInt_eq_toNat_of_lt (by omega), hnat]
  · rw [min_eq_right (by omega)]

namespace VersionVector

/-- No counter is past the signed range, so that the wire form keeps all of them. -/
def FitsWire (v : VersionVector) : Prop := ∀ n, (v.writes n : ℤ) ≤ Int64.maxValue.toInt

theorem writes_of_mem_entries {v : VersionVector} {e : NodeId × UInt64} (h : e ∈ v.entries) :
    v.writes e.1 = e.2.toNat := by
  rw [writes, count, Dict.mem_entries_iff.1 h, Option.getD_some]

theorem fitsWire_iff {v : VersionVector} :
    v.FitsWire ↔ ∀ e ∈ v.entries, (e.2.toNat : ℤ) ≤ Int64.maxValue.toInt := by
  constructor
  · intro h e he
    rw [← writes_of_mem_entries he]
    exact h e.1
  · intro h n
    cases hn : v.counts.find? n with
    | none =>
      rw [writes_eq_zero_of_find?_eq_none hn]
      decide
    | some k =>
      have he : (n, k) ∈ v.entries := Dict.mem_entries_iff.2 hn
      rw [writes_of_mem_entries he]
      exact h (n, k) he

instance (v : VersionVector) : Decidable v.FitsWire := decidable_of_iff _ fitsWire_iff.symm

theorem FitsWire.merge {v w : VersionVector} (hv : v.FitsWire) (hw : w.FitsWire) :
    (v.merge w).FitsWire := fun n ↦ by
  rw [writes_merge]
  rcases max_choice (v.writes n) (w.writes n) with h | h <;> rw [h]
  · exact hv n
  · exact hw n

theorem FitsWire.mono {v w : VersionVector} (hw : w.FitsWire) (h : v ≤ w) : v.FitsWire := by
  intro n
  have hle := h n
  have hn := hw n
  omega

/-- `w` is what is left of a vector when every counter past the signed range is cut off at the end
of the range. -/
def CutsTo (v w : VersionVector) : Prop :=
  ∀ n, (w.writes n : ℤ) = min (v.writes n : ℤ) Int64.maxValue.toInt

theorem CutsTo.eq_of_fitsWire {v w : VersionVector} (h : v.CutsTo w) (hv : v.FitsWire) : w = v :=
  ext_writes fun n ↦ by
    have hn := h n
    rw [min_eq_left (hv n)] at hn
    exact Int.ofNat_inj.1 hn

/-! ## What a list of entries lists -/

/-- The entries give every node of the vector its counter. Nodes without writes may be named. -/
structure Lists (es : List WireEntry) (v : VersionVector) : Prop where
  /-- No node is named twice. -/
  nodup : (es.map (·.node)).Nodup
  named : ∀ e ∈ es, (v.writes e.node : ℤ) = e.counter.toInt
  unnamed : ∀ n, n ∉ es.map (·.node) → v.writes n = 0

namespace Lists

variable {es es' : List WireEntry} {v w : VersionVector}

theorem unique (hv : Lists es v) (hw : Lists es w) : v = w := by
  refine ext_writes fun n ↦ ?_
  by_cases hn : n ∈ es.map (·.node)
  · obtain ⟨e, he, rfl⟩ := List.mem_map.1 hn
    have hve := hv.named e he
    have hwe := hw.named e he
    omega
  · rw [hv.unnamed n hn, hw.unnamed n hn]

theorem perm (h : Lists es v) (hperm : es.Perm es') : Lists es' v where
  nodup := (hperm.map _).nodup_iff.1 h.nodup
  named e he := h.named e (hperm.mem_iff.2 he)
  unnamed n hn := h.unnamed n fun hmem ↦ hn ((hperm.map _).mem_iff.1 hmem)

theorem append_zeros (h : Lists es v) {zeros : List WireEntry}
    (hzero : ∀ e ∈ zeros, e.counter = 0) (hnodup : ((es ++ zeros).map (·.node)).Nodup) :
    Lists (es ++ zeros) v where
  nodup := hnodup
  named e he := by
    rcases List.mem_append.1 he with he | he
    · exact h.named e he
    · have hnew : e.node ∉ es.map (·.node) := by
        rw [List.map_append] at hnodup
        exact fun hmem ↦ (List.nodup_append.1 hnodup).2.2 _ hmem _ (List.mem_map_of_mem he) rfl
      rw [h.unnamed _ hnew, hzero e he]
      rfl
  unnamed n hn := h.unnamed n fun hmem ↦ hn (by
    rw [List.map_append]
    exact List.mem_append_left _ hmem)

theorem fitsWire (h : Lists es v) : v.FitsWire := by
  intro n
  by_cases hn : n ∈ es.map (·.node)
  · obtain ⟨e, he, rfl⟩ := List.mem_map.1 hn
    rw [h.named e he]
    exact e.counter.toInt_le
  · rw [h.unnamed n hn]
    decide

end Lists

/-! ## Reading -/

section Reading

variable {es : List WireEntry} {seen : List NodeId} {v w : VersionVector}

/-- Reading that succeeds has met no node twice and no negative counter. -/
theorem distinct_of_addWire (h : addWire seen v es = .ok w) :
    (es.map (·.node)).Nodup ∧ ∀ e ∈ es, e.node ∉ seen ∧ 0 ≤ e.counter.toInt := by
  induction es generalizing seen v with
  | nil => simp
  | cons e rest ih =>
    rw [addWire] at h
    split at h
    · simp at h
    · rename_i hnew
      split at h
      · simp at h
      · rename_i hneg
        -- Whether the counter is zero or not, the rest is read with the node among those seen.
        obtain ⟨x, hx⟩ : ∃ x, addWire (e.node :: seen) x rest = .ok w := by
          split at h <;> exact ⟨_, h⟩
        obtain ⟨hnodup, hrest⟩ := ih hx
        rw [List.forall_mem_cons, List.map_cons, List.nodup_cons]
        refine ⟨⟨fun hmem ↦ ?_, hnodup⟩, ⟨hnew, ?_⟩, fun x hx ↦ ?_⟩
        · obtain ⟨x, hx, hnode⟩ := List.mem_map.1 hmem
          exact (hrest x hx).1 (hnode ▸ List.mem_cons_self)
        · rw [Int64.lt_iff_toInt_lt] at hneg
          exact Int.not_lt.1 hneg
        · exact ⟨fun hseen ↦ (hrest x hx).1 (List.mem_cons_of_mem _ hseen), (hrest x hx).2⟩

/-- Reading gives every node that is named its counter and leaves all other nodes as they were. -/
theorem exists_addWire (hnodup : (es.map (·.node)).Nodup)
    (hes : ∀ e ∈ es, e.node ∉ seen ∧ 0 ≤ e.counter.toInt)
    (hv : ∀ e ∈ es, v.writes e.node = 0) :
    ∃ w, addWire seen v es = .ok w ∧ (∀ e ∈ es, (w.writes e.node : ℤ) = e.counter.toInt) ∧
      ∀ n, n ∉ es.map (·.node) → w.writes n = v.writes n := by
  induction es generalizing seen v with
  | nil => exact ⟨v, rfl, by simp, fun _ _ ↦ rfl⟩
  | cons e rest ih =>
    rw [List.map_cons, List.nodup_cons] at hnodup
    rw [List.forall_mem_cons] at hes hv
    obtain ⟨hnode, hrest⟩ := hnodup
    obtain ⟨⟨hseen, hnonneg⟩, hes⟩ := hes
    have hne : ∀ x ∈ rest, x.node ≠ e.node := fun x hx h ↦ hnode (h ▸ List.mem_map_of_mem hx)
    have hseen' : ∀ x ∈ rest, x.node ∉ e.node :: seen ∧ 0 ≤ x.counter.toInt := fun x hx ↦
      ⟨List.not_mem_cons_of_ne_of_not_mem (hne x hx) (hes x hx).1, (hes x hx).2⟩
    have hneg : ¬e.counter < 0 := by
      rw [Int64.lt_iff_toInt_lt]
      exact Int.not_lt.2 hnonneg
    have hnat : (e.counter.toUInt64.toNat : ℤ) = e.counter.toInt := by
      rw [Int64.toNat_toUInt64_of_le (Int64.le_iff_toInt_le.2 hnonneg)]
      exact Int.toNat_of_nonneg hnonneg
    -- The vector with the counter of this entry, which is dropped if it is zero.
    obtain ⟨x, hx, hself, hother⟩ : ∃ x, addWire seen v (e :: rest) =
        addWire (e.node :: seen) x rest ∧ (x.writes e.node : ℤ) = e.counter.toInt ∧
          ∀ n, n ≠ e.node → x.writes n = v.writes n := by
      rw [addWire, if_neg hseen, if_neg hneg]
      by_cases hpos : 0 < e.counter.toUInt64
      · rw [dif_pos hpos]
        exact ⟨_, rfl, by rw [writes_set_self, hnat], fun n hn ↦ writes_set_ne hpos hn⟩
      · rw [dif_neg hpos]
        rw [UInt64.lt_iff_toNat_lt, UInt64.toNat_zero] at hpos
        exact ⟨v, rfl, by omega, fun _ _ ↦ rfl⟩
    obtain ⟨w, hw, hnamed, hunnamed⟩ := ih hrest hseen' fun y hy ↦ by
      rw [hother _ (hne y hy), hv.2 y hy]
    refine ⟨w, hx.trans hw, ?_, fun n hn ↦ ?_⟩
    · rw [List.forall_mem_cons]
      exact ⟨by rw [hunnamed _ hnode, hself], hnamed⟩
    · rw [List.map_cons, List.mem_cons, not_or] at hn
      rw [hunnamed n hn.2, hother n hn.1]

theorem exists_lists (hnodup : (es.map (·.node)).Nodup) (hes : ∀ e ∈ es, 0 ≤ e.counter.toInt) :
    ∃ v, addWire [] empty es = .ok v ∧ Lists es v := by
  have hnew : ∀ e ∈ es, e.node ∉ ([] : List NodeId) ∧ 0 ≤ e.counter.toInt := fun e he ↦
    ⟨List.not_mem_nil, hes e he⟩
  obtain ⟨v, hv, hnamed, hunnamed⟩ := exists_addWire (v := empty) hnodup hnew fun _ _ ↦ rfl
  exact ⟨v, hv, hnodup, hnamed, hunnamed⟩

/-- Entries are read as the vector that they list, unless it is empty. -/
theorem ofWire_eq_ok_iff : ofWire es = .ok v ↔ v ≠ ⊥ ∧ Lists es v := by
  rw [ofWire]
  constructor
  · intro h
    split at h <;> rename_i hadd
    · rename_i w
      obtain ⟨hnodup, hes⟩ := distinct_of_addWire hadd
      obtain ⟨x, hx, hlists⟩ := exists_lists hnodup fun e he ↦ (hes e he).2
      obtain rfl := Except.ok.inj (hx.symm.trans hadd)
      split at h <;> rename_i hempty
      · simp at h
      · obtain rfl := Except.ok.inj h
        exact ⟨mt isEmpty_iff.2 hempty, hlists⟩
    · simp at h
  · rintro ⟨hne, hlists⟩
    have hnonneg : ∀ e ∈ es, 0 ≤ e.counter.toInt := fun e he ↦ by
      rw [← hlists.named e he]
      exact Int.natCast_nonneg _
    obtain ⟨w, hadd, hw⟩ := exists_lists hlists.nodup hnonneg
    obtain rfl := hw.unique hlists
    rw [hadd]
    exact if_neg (mt isEmpty_iff.1 hne)

end Reading

/-! ## Sending -/

theorem nodes_toWire (v : VersionVector) : v.toWire.map (·.node) = v.nodes := by
  rw [toWire, List.map_map]
  rfl

/-- The wire form lists the vector as far as the signed range goes. -/
theorem exists_lists_toWire (v : VersionVector) : ∃ w, Lists v.toWire w ∧ v.CutsTo w := by
  have hcounter : ∀ e ∈ v.toWire, e.counter.toInt =
      min (v.writes e.node : ℤ) Int64.maxValue.toInt := by
    intro e he
    obtain ⟨x, hx, rfl⟩ := List.mem_map.1 he
    have hnode : (WireEntry.ofEntry x).node = x.1 := rfl
    rw [WireEntry.toInt_ofEntry, hnode, writes_of_mem_entries hx]
  have hnodup : (v.toWire.map (·.node)).Nodup := v.nodes_toWire ▸ v.counts.nodup_keys
  obtain ⟨w, -, hw⟩ := exists_lists hnodup fun e he ↦ by
    rw [hcounter e he]
    exact le_min (Int.natCast_nonneg _) (by decide)
  refine ⟨w, hw, fun n ↦ ?_⟩
  by_cases hn : n ∈ v.toWire.map (·.node)
  · obtain ⟨e, he, rfl⟩ := List.mem_map.1 hn
    rw [hw.named e he, hcounter e he]
  · rw [hw.unnamed n hn]
    rw [nodes_toWire, mem_nodes_iff, Nat.not_lt, Nat.le_zero] at hn
    rw [hn]
    rfl

theorem FitsWire.lists_toWire {v : VersionVector} (h : v.FitsWire) : Lists v.toWire v := by
  obtain ⟨w, hw, hcut⟩ := v.exists_lists_toWire
  obtain rfl := hcut.eq_of_fitsWire h
  exact hw

theorem ofWire_toWire {v : VersionVector} (hne : v ≠ ⊥) (h : v.FitsWire) :
    ofWire v.toWire = .ok v :=
  ofWire_eq_ok_iff.2 ⟨hne, h.lists_toWire⟩

theorem exists_ofWire_toWire {v : VersionVector} (hne : v ≠ ⊥) :
    ∃ w, ofWire v.toWire = .ok w ∧ v.CutsTo w := by
  obtain ⟨w, hw, hcut⟩ := v.exists_lists_toWire
  refine ⟨w, ofWire_eq_ok_iff.2 ⟨?_, hw⟩, hcut⟩
  rintro rfl
  refine hne (ext_writes fun n ↦ ?_)
  have hmax : Int64.maxValue.toInt = 2 ^ 63 - 1 := Int64.toInt_maxValue
  have hn := hcut n
  rw [bot_def, writes_empty] at hn ⊢
  omega

end VersionVector

namespace Version

theorem ofWire_eq_ok_iff {raw : WireVersion} {v : Version} : ofWire raw = .ok v ↔
    VersionVector.ofWire raw.vector = .ok v.vector ∧ v.check = .ok () ∧
      v = ⟨raw.id, raw.collection, raw.payload, raw.tombstone, v.vector, raw.modified,
        raw.origin.getD v.vector.origin⟩ := by
  rw [ofWire]
  cases hvec : VersionVector.ofWire raw.vector with
  | error e => simp [Except.mapError, bind, Except.bind]
  | ok x =>
    simp only [Except.mapError, bind, Except.bind, pure, Except.pure, Except.ok.injEq]
    constructor
    · intro h
      split at h <;> rename_i hcheck
      · simp at h
      · obtain rfl := Except.ok.inj h
        exact ⟨rfl, hcheck, rfl⟩
    · rintro ⟨rfl, hcheck, hv⟩
      rw [← hv, hcheck]

theorem check_of_ofWire {raw : WireVersion} {v : Version} (h : ofWire raw = .ok v) :
    v.check = .ok () ∧ v.id = raw.id := by
  obtain ⟨-, hcheck, hv⟩ := ofWire_eq_ok_iff.1 h
  exact ⟨hcheck, by rw [hv]⟩

theorem fitsWire_of_ofWire {raw : WireVersion} {v : Version} (h : ofWire raw = .ok v) :
    v.vector.FitsWire := by
  obtain ⟨hvec, -⟩ := ofWire_eq_ok_iff.1 h
  exact (VersionVector.ofWire_eq_ok_iff.1 hvec).2.fitsWire

theorem ofWire_toWire {v : Version} (hv : v.check = .ok ()) (h : v.vector.FitsWire) :
    ofWire v.toWire = .ok v := by
  obtain ⟨-, -, hne⟩ := check_eq_ok_iff.1 hv
  exact ofWire_eq_ok_iff.2 ⟨VersionVector.ofWire_toWire hne h, hv, rfl⟩

theorem exists_ofWire_toWire {v : Version} (hv : v.check = .ok ()) :
    ∃ w, ofWire v.toWire = .ok (v.withVector w) ∧ v.vector.CutsTo w := by
  obtain ⟨hid, hpayload, hne⟩ := check_eq_ok_iff.1 hv
  obtain ⟨w, hw, hcut⟩ := VersionVector.exists_ofWire_toWire hne
  have hcheck : (v.withVector w).check = .ok () :=
    check_eq_ok_iff.2 ⟨hid, hpayload, (VersionVector.ofWire_eq_ok_iff.1 hw).1⟩
  exact ⟨w, ofWire_eq_ok_iff.2 ⟨hw, hcheck, rfl⟩, hcut⟩

end Version

end CausalReplica
