import CausalReplica.Proofs.Settled
import Mathlib.Data.List.Sublists

/-!
# Ranks

A policy that decides ranks the versions of a document, and a conflict is resolved by a member of
the greatest rank with the vectors of all members merged. The latest order is the rank of the one
policy; the other puts tombstones before it. What a version has seen does not matter to its rank, so
a version that was merged with others keeps the rank that it had.

Ranks respect causality when a version that some others cover together is not above all of them.
Without this a covered version would be dropped though it ought to win.
-/

namespace CausalReplica

namespace Version

/-! ## The order of tombstones -/

/-- The order in which every tombstone is greater than every live document: by tombstone, time,
origin, payload and collection. -/
def tombstoneOrder : Version → Version → Ordering := fun a b ↦
  (compare a.tombstone b.tombstone).then <|
  (compare a.modified b.modified).then <|
  (compare a.origin b.origin).then <|
  (compare a.payload b.payload).then <|
  compare a.collection b.collection

theorem tombstoneOrder_eq_compareLex : tombstoneOrder = compareLex (compareOn tombstone)
    (compareLex (compareOn modified) (compareLex (compareOn origin)
      (compareLex (compareOn payload) (compareOn collection)))) := rfl

instance : Std.TransCmp tombstoneOrder := by
  rw [tombstoneOrder_eq_compareLex]
  infer_instance

/-- Among versions of one kind it is the latest order. -/
theorem tombstoneOrder_eq_then (a b : Version) :
    tombstoneOrder a b = (compare a.tombstone b.tombstone).then (latestOrder a b) := by
  cases h : compare a.tombstone b.tombstone <;> simp [tombstoneOrder, latestOrder, h]

theorem latestOrder_eq_eq_of_tombstoneOrder {a b : Version} (h : tombstoneOrder a b = .eq) :
    latestOrder a b = .eq := by
  rw [tombstoneOrder_eq_then, Ordering.then_eq_eq] at h
  exact h.2

theorem tombstoneOrder_isLE_of_tombstone {a b : Version} (hb : b.tombstone = true)
    (h : a.tombstone = true → (latestOrder a b).isLE) : (tombstoneOrder a b).isLE := by
  rw [tombstoneOrder_eq_then, hb]
  cases ha : a.tombstone with
  | false => rfl
  | true => exact h ha

theorem tombstoneOrder_isLE_of_live {a b : Version} (ha : a.tombstone = false)
    (hb : b.tombstone = false) (h : (latestOrder a b).isLE) : (tombstoneOrder a b).isLE := by
  rw [tombstoneOrder_eq_then, ha, hb]
  exact h

theorem eq_nil_of_latest? {vs : List Version} (h : latest? vs = none) : vs = [] := by
  by_contra hne
  obtain ⟨v, hv⟩ := exists_latest? hne
  rw [h] at hv
  simp at hv

/-! ## Merging -/

/-- The merge of the vectors of all versions of a list. -/
def merged (vs : List Version) : VersionVector := .mergeAll (vs.map (·.vector))

theorem merged_le_iff {vs : List Version} {x : VersionVector} :
    merged vs ≤ x ↔ ∀ v ∈ vs, v.vector ≤ x := by
  rw [merged, VersionVector.mergeAll_le_iff, List.forall_mem_map]

theorem le_merged {vs : List Version} {v : Version} (h : v ∈ vs) : v.vector ≤ merged vs :=
  merged_le_iff.1 le_rfl v h

theorem merged_concat (vs : List Version) (v : Version) :
    merged (vs ++ [v]) = merged vs ⊔ v.vector := by
  refine eq_of_forall_ge_iff fun x ↦ ?_
  rw [merged_le_iff, List.forall_mem_append, List.forall_mem_singleton, sup_le_iff, merged_le_iff]

theorem merged_singleton (v : Version) : merged [v] = v.vector :=
  eq_of_forall_ge_iff fun x ↦ by rw [merged_le_iff, List.forall_mem_singleton]

theorem merged_congr {vs ws : List Version} (h : ∀ v, v ∈ ws ↔ v ∈ vs) : merged ws = merged vs :=
  VersionVector.mergeAll_congr fun x ↦ by simp only [List.mem_map, h]

end Version

namespace Policy

variable {p : Policy} {vs ws : List Version} {m v w : Version}

/-! ## Ranks -/

/-- The order in which a policy that decides ranks versions. -/
def rankOrder : Policy → Version → Version → Ordering
  | .tombstone => Version.tombstoneOrder
  | _ => Version.latestOrder

instance (p : Policy) : Std.TransCmp p.rankOrder := by
  cases p with
  | tombstone => exact inferInstanceAs (Std.TransCmp Version.tombstoneOrder)
  | _ => exact inferInstanceAs (Std.TransCmp Version.latestOrder)

@[simp] theorem rankOrder_withVector_left (p : Policy) (v w : Version) (x : VersionVector) :
    p.rankOrder (v.withVector x) w = p.rankOrder v w := by
  cases p <;> rfl

@[simp] theorem rankOrder_withVector_right (p : Policy) (v w : Version) (x : VersionVector) :
    p.rankOrder v (w.withVector x) = p.rankOrder v w := by
  cases p <;> rfl

/-- Versions of one document that are equal in rank differ in their vectors only. -/
theorem withVector_eq_of_rankOrder_eq (hid : v.id = w.id) (h : p.rankOrder v w = .eq)
    (x : VersionVector) : v.withVector x = w.withVector x := by
  have hlatest : Version.latestOrder v w = .eq := by
    cases p with
    | tombstone => exact Version.latestOrder_eq_eq_of_tombstoneOrder h
    | _ => exact h
  exact Version.eq_of_latestOrder_eq hid rfl hlatest

/-- A version of the list that no other one outranks. -/
structure Wins (p : Policy) (vs : List Version) (m : Version) : Prop where
  mem : m ∈ vs
  isLE : ∀ v ∈ vs, (p.rankOrder v m).isLE

theorem Wins.congr (h : p.Wins vs m) (hsame : ∀ v, v ∈ ws ↔ v ∈ vs) : p.Wins ws m :=
  ⟨(hsame m).2 h.mem, fun v hv ↦ h.isLE v ((hsame v).1 hv)⟩

theorem Wins.withVector_eq (hv : p.Wins vs v) (hw : p.Wins vs w) (hid : v.id = w.id)
    (x : VersionVector) : v.withVector x = w.withVector x :=
  withVector_eq_of_rankOrder_eq hid
    (Std.OrientedCmp.isLE_antisymm (hw.isLE v hv.mem) (hv.isLE w hw.mem)) x

theorem Wins.concat (h : p.Wins vs m) (hv : (p.rankOrder v m).isLE) : p.Wins (vs ++ [v]) m := by
  refine ⟨List.mem_append_left _ h.mem, fun w hw ↦ ?_⟩
  rcases List.mem_append.1 hw with hw | hw
  · exact h.isLE w hw
  · rwa [List.mem_singleton.1 hw]

theorem wins_concat_self (h : ∀ w ∈ vs, (p.rankOrder w v).isLE) : p.Wins (vs ++ [v]) v := by
  refine ⟨by simp, fun w hw ↦ ?_⟩
  rcases List.mem_append.1 hw with hw | hw
  · exact h w hw
  · rw [List.mem_singleton.1 hw]
    exact Std.ReflCmp.isLE_rfl

theorem wins_singleton (p : Policy) (v : Version) : p.Wins [v] v :=
  wins_concat_self (List.forall_mem_nil _)

theorem exists_plan (hp : p.decides = true) {c : Conflict} (hc : c.members ≠ []) :
    ∃ w, p.Wins c.members w ∧ Resolution.plan p c = .settled (.resolved (c.restamped w)) := by
  obtain ⟨v, hv⟩ := Version.exists_latest? hc
  obtain ⟨hmem, hlatest⟩ := Version.mem_of_latest? hv
  cases p with
  | latest =>
    refine ⟨v, ⟨hmem, hlatest⟩, ?_⟩
    rw [Resolution.plan, Conflict.resolveToLatest?, hv]
    rfl
  | tombstone =>
    cases ht : Version.latest? (c.members.filter (·.tombstone)) with
    | some t =>
      obtain ⟨htmem, htlatest⟩ := Version.mem_of_latest? ht
      obtain ⟨htmem, htomb⟩ := List.mem_filter.1 htmem
      refine ⟨t, ⟨htmem, fun w hw ↦ ?_⟩, ?_⟩
      · exact Version.tombstoneOrder_isLE_of_tombstone htomb fun hwt ↦
          htlatest w (List.mem_filter.2 ⟨hw, hwt⟩)
      · rw [Resolution.plan, Conflict.resolveToTombstone?, ht]
        rfl
    | none =>
      have hlive : ∀ w ∈ c.members, w.tombstone = false := fun w hw ↦
        Bool.eq_false_of_not_eq_true (List.filter_eq_nil_iff.1 (Version.eq_nil_of_latest? ht) w hw)
      refine ⟨v, ⟨hmem, fun w hw ↦ ?_⟩, ?_⟩
      · exact Version.tombstoneOrder_isLE_of_live (hlive w hw) (hlive v hmem) (hlatest w hw)
      · rw [Resolution.plan, Conflict.resolveToTombstone?, ht, hv]
        rfl
  | none => simp [decides] at hp
  | scripts _ => simp [decides] at hp

/-- A way to resolve conflicts that takes a member that wins. -/
def Elects (p : Policy) (resolve : Conflict → Option Version) : Prop :=
  ∀ c : Conflict, c.members ≠ [] → ∃ m, p.Wins c.members m ∧ resolve c = some (c.restamped m)

theorem elects_latest : Policy.latest.Elects Conflict.resolveToLatest? := by
  intro c hc
  obtain ⟨m, hm, hplan⟩ := exists_plan (p := .latest) rfl hc
  exact ⟨m, hm, Resolution.ofWinner_eq_resolved_iff.1 (Resolution.Plan.settled.inj hplan)⟩

theorem elects_tombstone : Policy.tombstone.Elects Conflict.resolveToTombstone? := by
  intro c hc
  obtain ⟨m, hm, hplan⟩ := exists_plan (p := .tombstone) rfl hc
  exact ⟨m, hm, Resolution.ofWinner_eq_resolved_iff.1 (Resolution.Plan.settled.inj hplan)⟩

theorem exists_wins (hp : p.decides = true) (hne : vs ≠ []) : ∃ m, p.Wins vs m := by
  obtain ⟨m, hm, -⟩ := exists_plan (c := ⟨"", vs⟩) hp hne
  exact ⟨m, hm⟩

/-! ## Ranks that respect causality -/

/-- A version that some versions of the list cover together is not above all of them. -/
def Respects (p : Policy) (vs : List Version) : Prop :=
  ∀ v ∈ vs, ∀ ws, ws ≠ [] → ws.Sublist vs →
    v.vector.relate (.mergeAll (ws.map (·.vector))) = .dominated ∨
      v.vector.relate (.mergeAll (ws.map (·.vector))) = .equal →
    ∃ w ∈ ws, (p.rankOrder v w).isLE

/-- There are only so many sublists to look at. -/
instance (p : Policy) (vs : List Version) : Decidable (p.Respects vs) :=
  decidable_of_iff (∀ v ∈ vs, ∀ ws ∈ vs.sublists, ws ≠ [] →
    v.vector.relate (.mergeAll (ws.map (·.vector))) = .dominated ∨
      v.vector.relate (.mergeAll (ws.map (·.vector))) = .equal →
    ∃ w ∈ ws, (p.rankOrder v w).isLE) (by
      simp only [Respects, List.mem_sublists]
      exact ⟨fun h v hv ws hne hws ↦ h v hv ws hws hne, fun h v hv ws hws hne ↦ h v hv ws hne hws⟩)

namespace Respects

/-- Neither the order nor repetitions of the versions that cover another one matter. -/
theorem exists_isLE (h : p.Respects vs) (hv : v ∈ vs) (hws : ∀ w ∈ ws, w ∈ vs) (hne : ws ≠ [])
    (hle : v.vector ≤ Version.merged ws) : ∃ w ∈ ws, (p.rankOrder v w).isLE := by
  have hsame : ∀ w, w ∈ vs.filter (· ∈ ws) ↔ w ∈ ws := fun w ↦ by
    rw [List.mem_filter, decide_eq_true_iff]
    exact ⟨And.right, fun hw ↦ ⟨hws w hw, hw⟩⟩
  obtain ⟨u, hu⟩ := List.exists_mem_of_ne_nil ws hne
  rw [← Version.merged_congr hsame] at hle
  obtain ⟨w, hw, hrank⟩ := h v hv (vs.filter (· ∈ ws)) (List.ne_nil_of_mem ((hsame u).2 hu))
    List.filter_sublist (by
      rw [VersionVector.relate_eq_dominated_iff, VersionVector.relate_eq_equal_iff]
      exact hle.lt_or_eq)
  exact ⟨w, (hsame w).1 hw, hrank⟩

theorem congr (h : p.Respects vs) (hsame : ∀ v, v ∈ ws ↔ v ∈ vs) : p.Respects ws := by
  intro v hv us hne hus hrel
  rw [VersionVector.relate_eq_dominated_iff, VersionVector.relate_eq_equal_iff,
    ← le_iff_lt_or_eq] at hrel
  exact h.exists_isLE ((hsame v).1 hv) (fun u hu ↦ (hsame u).1 (hus.subset hu)) hne hrel

/-- A version that others cover together does not outrank a winner among them. -/
theorem isLE_of_wins (h : p.Respects vs) (hv : v ∈ vs) (hws : ∀ w ∈ ws, w ∈ vs)
    (hm : p.Wins ws m) (hle : v.vector ≤ Version.merged ws) : (p.rankOrder v m).isLE := by
  obtain ⟨w, hw, hrank⟩ := h.exists_isLE hv hws (List.ne_nil_of_mem hm.mem) hle
  exact Std.TransCmp.isLE_trans hrank (hm.isLE w hw)

theorem isLE_of_le (h : p.Respects vs) (hv : v ∈ vs) (hw : w ∈ vs) (hle : v.vector ≤ w.vector) :
    (p.rankOrder v w).isLE := by
  refine h.isLE_of_wins hv (by simpa using hw) (wins_singleton p w) ?_
  rwa [Version.merged_singleton]

end Respects

end Policy

end CausalReplica
