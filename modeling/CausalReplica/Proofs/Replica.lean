import CausalReplica.Proofs.Resolution
import CausalReplica.Replica.Basic

/-!
# What a replica knows, and how it advances

A replica knows the members of the open conflict of a document, or else its stored version. A step
advances a replica in one of three ways: it leaves the store and the registry as they are, it
replaces everything that is known of a document by a version above all of it, or it records a
conflict that covers everything that is known of its document.

Whatever is true of all runs follows from these three. They keep a replica consistent, they never
lose what is covered, and every version that is written is above the one before it.
-/

namespace CausalReplica

/-! ## Look-ups of stores and registries -/

namespace Store

/-- Both calls keep the version: each is only ever used for its own kind. -/
theorem write_eq (s : Store) (v : Version) : s.write v = .ok ⟨s.versions.insert v.id v⟩ := by
  rw [write]
  split <;> rename_i h
  · rw [delete, if_pos h]
  · rw [put, if_neg h]

theorem get?_of_write_self {s s' : Store} {v : Version} (h : s.write v = .ok s') :
    s'.get? v.id = some v := by
  obtain rfl := Except.ok.inj ((s.write_eq v).symm.trans h)
  exact Dict.find?_insert_self _ _ _

theorem get?_of_write_ne {s s' : Store} {v : Version} (h : s.write v = .ok s') {id : String}
    (hid : id ≠ v.id) : s'.get? id = s.get? id := by
  obtain rfl := Except.ok.inj ((s.write_eq v).symm.trans h)
  exact Dict.find?_insert_ne _ hid _

end Store

namespace Registry

@[simp] theorem get?_clear_self (r : Registry) (id : String) : (r.clear id).get? id = none :=
  Dict.find?_erase_self _ _

theorem get?_clear_ne (r : Registry) {id id' : String} (h : id' ≠ id) :
    (r.clear id).get? id' = r.get? id' := Dict.find?_erase_ne _ h

theorem clear_of_get?_eq_none {r : Registry} {id : String} (h : r.get? id = none) :
    r.clear id = r := by
  refine congrArg mk (Dict.ext_find? fun id' ↦ ?_)
  by_cases hid : id' = id
  · rw [hid]
    exact (r.get?_clear_self id).trans h.symm
  · exact r.get?_clear_ne hid

theorem get?_of_record_self {r r' : Registry} {c : Conflict} (hc : c.Sound)
    (h : r.record c = .ok r') : r'.get? c.id = some c := by
  obtain rfl := Except.ok.inj ((hc.record r).symm.trans h)
  exact Dict.find?_insert_self _ _ _

theorem get?_of_record_ne {r r' : Registry} {c : Conflict} (hc : c.Sound)
    (h : r.record c = .ok r') {id : String} (hid : id ≠ c.id) : r'.get? id = r.get? id := by
  obtain rfl := Except.ok.inj ((hc.record r).symm.trans h)
  exact Dict.find?_insert_ne _ hid _

theorem mem_ids {r : Registry} {id : String} : id ∈ r.ids ↔ r.get? id ≠ none := by
  rw [ids, get?, ne_eq, Dict.find?_eq_none_iff, not_not]

theorem ids_eq_nil {r : Registry} (h : ∀ id, r.get? id = none) : r.ids = [] :=
  List.eq_nil_iff_forall_not_mem.2 fun id hid ↦ mem_ids.1 hid (h id)

theorem ids_eq_singleton {r : Registry} {id : String} (hid : r.get? id ≠ none)
    (h : ∀ other, other ≠ id → r.get? other = none) : r.ids = [id] := by
  refine List.perm_singleton.1 ((List.perm_ext_iff_of_nodup r.conflicts.nodup_keys
    (List.pairwise_singleton _ id)).2 fun other ↦ ?_)
  rw [List.mem_singleton]
  constructor
  · intro hother
    by_contra hne
    exact mem_ids.1 hother (h other hne)
  · rintro rfl
    exact mem_ids.2 hid

end Registry

namespace Replica

variable {r r' : Replica}

/-! ## What is known of a document -/

/-- The members of the open conflict of a document, or else its stored version. -/
def knownVersions (r : Replica) (id : String) : List Version :=
  match r.registry.get? id with
  | some c => c.members
  | none => (r.store.get? id).toList

/-- Some version that is known of the document has seen all that `x` has seen. -/
def Covers (r : Replica) (id : String) (x : VersionVector) : Prop :=
  ∃ w ∈ r.knownVersions id, x ≤ w.vector

theorem knownVersions_of_recorded {id : String} {c : Conflict} (h : r.registry.get? id = some c) :
    r.knownVersions id = c.members := by rw [knownVersions, h]

theorem knownVersions_of_clean {id : String} (h : r.registry.get? id = none) :
    r.knownVersions id = (r.store.get? id).toList := by rw [knownVersions, h]

theorem knownVersions_congr {id : String} (hs : r'.store.get? id = r.store.get? id)
    (hr : r'.registry.get? id = r.registry.get? id) :
    r'.knownVersions id = r.knownVersions id := by
  rw [knownVersions, knownVersions, hs, hr]

/-- What holds of a replica between its steps. -/
structure Consistent (r : Replica) : Prop where
  /-- A stored version is one of its document, and passes its check. -/
  stored : ∀ id v, r.store.get? id = some v → v.id = id ∧ v.check = .ok ()
  /-- A recorded conflict is sound and recorded under its own id. Its document has a stored
  version, which some member covers. -/
  recorded : ∀ id c, r.registry.get? id = some c →
    c.id = id ∧ c.Sound ∧ ∃ v, r.store.get? id = some v ∧ ∃ m ∈ c.members, v.vector ≤ m.vector

theorem fresh_consistent (node : NodeId) (policy : Policy) (limit : Span) :
    (fresh node policy limit).Consistent := by
  refine ⟨fun id v h ↦ ?_, fun id c h ↦ ?_⟩
  · exact absurd h (Option.some_ne_none v).symm
  · exact absurd h (Option.some_ne_none c).symm

theorem Consistent.known (h : r.Consistent) {id : String} {w : Version}
    (hw : w ∈ r.knownVersions id) : w.id = id ∧ w.check = .ok () := by
  cases hc : r.registry.get? id with
  | some c =>
    obtain ⟨rfl, hsound, -⟩ := h.recorded id c hc
    rw [knownVersions_of_recorded hc] at hw
    exact hsound.member w hw
  | none =>
    rw [knownVersions_of_clean hc, Option.mem_toList] at hw
    exact h.stored id w hw

theorem Consistent.covers_stored (h : r.Consistent) {id : String} {v : Version}
    (hv : r.store.get? id = some v) : r.Covers id v.vector := by
  cases hc : r.registry.get? id with
  | some c =>
    obtain ⟨-, -, u, hu, m, hm, hle⟩ := h.recorded id c hc
    obtain rfl := Option.some.inj (hu.symm.trans hv)
    exact ⟨m, (knownVersions_of_recorded hc).symm ▸ hm, hle⟩
  | none =>
    refine ⟨v, ?_, le_rfl⟩
    rw [knownVersions_of_clean hc, hv]
    exact List.mem_singleton_self v

/-- The version passes its check, and it brings nothing new. -/
structure Knows (r : Replica) (x : Version) : Prop where
  check : x.check = .ok ()
  covers : r.Covers x.id x.vector

/-! ## Advancing -/

/-- How the store and the registry change in one step; the option is the version written. -/
inductive Advance (r : Replica) : Option Version → Replica → Prop
  /-- Nothing changes. -/
  | keep {r' : Replica} (store : r'.store = r.store) (registry : r'.registry = r.registry) :
    Advance r none r'
  /-- A version above all that is known of its document takes its place. -/
  | replace {r' : Replica} (v : Version) (check : v.check = .ok ())
    (above : ∀ w ∈ r.knownVersions v.id, w.vector < v.vector)
    (store : r.store.write v = .ok r'.store) (registry : r'.registry = r.registry.clear v.id) :
    Advance r (some v) r'
  /-- A conflict that covers all that is known of its document is recorded. -/
  | record {r' : Replica} (c : Conflict) (sound : c.Sound)
    (covers : ∀ w ∈ r.knownVersions c.id, ∃ m ∈ c.members, w.vector ≤ m.vector)
    (stored : (r.store.get? c.id).isSome) (store : r'.store = r.store)
    (registry : r.registry.record c = .ok r'.registry) : Advance r none r'

namespace Advance

variable {written : Option Version}

theorem consistent (h : r.Advance written r') (hr : r.Consistent) : r'.Consistent := by
  cases h with
  | keep store registry => exact ⟨store ▸ hr.stored, store ▸ registry ▸ hr.recorded⟩
  | replace v check above store registry =>
    constructor
    · intro id w hw
      by_cases hid : id = v.id
      · subst hid
        rw [Store.get?_of_write_self store] at hw
        obtain rfl := Option.some.inj hw
        exact ⟨rfl, check⟩
      · rw [Store.get?_of_write_ne store hid] at hw
        exact hr.stored id w hw
    · intro id c hc
      rw [registry] at hc
      by_cases hid : id = v.id
      · rw [hid, Registry.get?_clear_self] at hc
        simp at hc
      · rw [Registry.get?_clear_ne _ hid] at hc
        rw [Store.get?_of_write_ne store hid]
        exact hr.recorded id c hc
  | record c sound covers stored store registry =>
    -- The stored version was covered by what was known, and that is covered by the new conflict.
    refine ⟨store ▸ hr.stored, fun id d hd ↦ ?_⟩
    rw [store]
    by_cases hid : id = c.id
    · subst hid
      rw [Registry.get?_of_record_self sound registry] at hd
      obtain rfl := Option.some.inj hd
      obtain ⟨v, hv⟩ := Option.isSome_iff_exists.1 stored
      obtain ⟨w, hw, hle⟩ := hr.covers_stored hv
      obtain ⟨m, hm, hwm⟩ := covers w hw
      exact ⟨rfl, sound, v, hv, m, hm, hle.trans hwm⟩
    · rw [Registry.get?_of_record_ne sound registry hid] at hd
      exact hr.recorded id d hd

theorem covers (h : r.Advance written r') {id : String} {x : VersionVector}
    (hx : r.Covers id x) : r'.Covers id x := by
  obtain ⟨w, hw, hle⟩ := hx
  -- Only the document that is replaced or recorded has to be looked at.
  cases h with
  | keep store registry =>
    have hknown : r'.knownVersions id = r.knownVersions id :=
      knownVersions_congr (by rw [store]) (by rw [registry])
    exact ⟨w, hknown ▸ hw, hle⟩
  | replace v check above store registry =>
    by_cases hid : id = v.id
    · subst hid
      refine ⟨v, ?_, hle.trans (above w hw).le⟩
      rw [knownVersions_of_clean (registry ▸ Registry.get?_clear_self _ _),
        Store.get?_of_write_self store]
      exact List.mem_singleton_self v
    · have hknown : r'.knownVersions id = r.knownVersions id :=
        knownVersions_congr (Store.get?_of_write_ne store hid)
          (registry ▸ Registry.get?_clear_ne _ hid)
      exact ⟨w, hknown ▸ hw, hle⟩
  | record c sound covers stored store registry =>
    by_cases hid : id = c.id
    · subst hid
      obtain ⟨m, hm, hwm⟩ := covers w hw
      refine ⟨m, ?_, hle.trans hwm⟩
      rwa [knownVersions_of_recorded (Registry.get?_of_record_self sound registry)]
    · have hknown : r'.knownVersions id = r.knownVersions id :=
        knownVersions_congr (by rw [store]) (Registry.get?_of_record_ne sound registry hid)
      exact ⟨w, hknown ▸ hw, hle⟩

theorem knows (h : r.Advance written r') {x : Version} (hx : r.Knows x) : r'.Knows x :=
  ⟨hx.check, h.covers hx.covers⟩

theorem store_eq (h : r.Advance none r') : r'.store = r.store := by
  cases h with
  | keep store _ => exact store
  | record _ _ _ _ store _ => exact store

theorem get?_written {v : Version} (h : r.Advance (some v) r') : r'.store.get? v.id = some v := by
  cases h with
  | replace _ _ _ store _ => exact Store.get?_of_write_self store

theorem knows_written {v : Version} (h : r.Advance (some v) r') : r'.Knows v := by
  have hstored := h.get?_written
  cases h with
  | replace _ check _ _ registry =>
    refine ⟨check, v, ?_, le_rfl⟩
    rw [knownVersions_of_clean (registry ▸ Registry.get?_clear_self _ _), hstored]
    exact List.mem_singleton_self v

theorem get?_of_ne {v : Version} (h : r.Advance (some v) r') {id : String} (hid : id ≠ v.id) :
    r'.store.get? id = r.store.get? id := by
  cases h with
  | replace _ _ _ store _ => exact Store.get?_of_write_ne store hid

theorem above {v : Version} (h : r.Advance (some v) r') :
    ∀ w ∈ r.knownVersions v.id, w.vector < v.vector := by
  cases h with
  | replace _ _ above _ _ => exact above

theorem stored_lt {v old : Version} (h : r.Advance (some v) r') (hr : r.Consistent)
    (hold : r.store.get? v.id = some old) : old.vector < v.vector := by
  obtain ⟨w, hw, hle⟩ := hr.covers_stored hold
  exact hle.trans_lt (h.above w hw)

/-- A stored version stays, or a version above it takes its place. -/
theorem exists_stored {id : String} {old : Version} (h : r.Advance written r') (hr : r.Consistent)
    (hold : r.store.get? id = some old) :
    ∃ new, r'.store.get? id = some new ∧ (new = old ∨ old.vector < new.vector) := by
  match written with
  | none => exact ⟨old, h.store_eq ▸ hold, .inl rfl⟩
  | some v =>
    by_cases hid : id = v.id
    · subst hid
      exact ⟨v, h.get?_written, .inr (h.stored_lt hr hold)⟩
    · exact ⟨old, (h.get?_of_ne hid).trans hold, .inl rfl⟩

end Advance

end Replica

end CausalReplica
