import CausalReplica.Proofs.Processing
import Mathlib.Order.Preorder.Finite

/-!
# What is left where nothing is resolved

Under the policy that resolves nothing a replica judges every version against what it knows, one
after the other, and forgets the versions that a new one dominates. What it knows in the end does
not show this: it is the frontier of all the versions that have arrived, the first version of each
vector that no other vector dominates, in their order.

The frontier is defined on the whole list. One more version changes it in exactly the way in which
processing changes what is known, so the two agree along every run. A single version on the frontier
is the stored one, and several of them are the open conflict.
-/

namespace CausalReplica

/-! ## The frontier of a list of versions -/

namespace Version

variable {v w : Version} {vs : List Version}

/-- The first version of each vector, in the order of the list. -/
def firsts : List Version → List Version
  | [] => []
  | v :: vs => v :: (firsts vs).filter fun w ↦ w.vector ≠ v.vector

/-- The first version of each vector that no vector of the list dominates, in the order of the
list. -/
def frontier (vs : List Version) : List Version :=
  (firsts vs).filter fun v ↦ vs.all fun w ↦ w.relate v ≠ .dominates

theorem mem_firsts : v ∈ firsts vs ↔ vs.find? (·.vector = v.vector) = some v := by
  induction vs with
  | nil => simp [firsts]
  | cons a vs ih =>
    rw [firsts, List.mem_cons, List.mem_filter, ih, List.find?_cons, decide_eq_true_iff]
    by_cases h : a.vector = v.vector
    · simp [h, eq_comm]
    · have hne : v ≠ a := fun hva ↦ h (hva ▸ rfl)
      simp [h, hne, Ne.symm h]

theorem exists_mem_firsts (hw : w ∈ vs) : ∃ m ∈ firsts vs, m.vector = w.vector := by
  have hsome : (vs.find? (·.vector = w.vector)).isSome := by
    rw [List.find?_isSome]
    exact ⟨w, hw, decide_eq_true rfl⟩
  obtain ⟨m, hm⟩ := Option.isSome_iff_exists.1 hsome
  have hvec : m.vector = w.vector := of_decide_eq_true (List.find?_some hm :)
  exact ⟨m, mem_firsts.2 (hvec ▸ hm), hvec⟩

theorem firsts_sublist (vs : List Version) : (firsts vs).Sublist vs := by
  induction vs with
  | nil => exact List.Sublist.slnil
  | cons a vs ih => exact (List.filter_sublist.trans ih).cons_cons a

theorem pairwise_firsts (vs : List Version) :
    (firsts vs).Pairwise fun v w ↦ v.vector ≠ w.vector := by
  induction vs with
  | nil => exact .nil
  | cons a vs ih =>
    refine .cons (fun w hw ↦ ?_) (ih.filter _)
    exact (of_decide_eq_true (List.mem_filter.1 hw).2).symm

theorem firsts_concat_of_new (h : ∀ w ∈ vs, w.vector ≠ v.vector) :
    firsts (vs ++ [v]) = firsts vs ++ [v] := by
  induction vs with
  | nil => rfl
  | cons a vs ih =>
    rw [List.forall_mem_cons] at h
    rw [List.cons_append, firsts, firsts, ih h.2, List.filter_append, List.cons_append]
    simp [h.1.symm]

theorem firsts_concat_of_mem (h : ∃ w ∈ vs, w.vector = v.vector) :
    firsts (vs ++ [v]) = firsts vs := by
  induction vs with
  | nil => simp at h
  | cons a vs ih =>
    rw [List.cons_append, firsts, firsts]
    by_cases hv : ∃ w ∈ vs, w.vector = v.vector
    · rw [ih hv]
    · -- The version is new to the rest of the list, but its vector is the first one.
      have ha : a.vector = v.vector := by simpa [hv] using h
      rw [firsts_concat_of_new (by simpa using hv), List.filter_append]
      simp [ha]

theorem mem_frontier :
    v ∈ frontier vs ↔ v ∈ firsts vs ∧ ∀ w ∈ vs, ¬v.vector < w.vector := by
  rw [frontier, List.mem_filter, List.all_eq_true]
  simp only [decide_eq_true_iff, ne_eq, relate_eq_dominates_iff]

theorem frontier_sublist (vs : List Version) : (frontier vs).Sublist vs :=
  List.filter_sublist.trans (firsts_sublist vs)

theorem pairwise_frontier (vs : List Version) :
    (frontier vs).Pairwise fun v w ↦ v.vector ≠ w.vector := (pairwise_firsts vs).filter _

/-- The vectors on the frontier are the maximal ones. -/
theorem maximal_iff {u : VersionVector} :
    Maximal (· ∈ vs.map (·.vector)) u ↔ u ∈ (frontier vs).map (·.vector) := by
  constructor
  · rintro ⟨hmem, hmax⟩
    obtain ⟨w, hw, rfl⟩ := List.mem_map.1 hmem
    obtain ⟨m, hm, hvec⟩ := exists_mem_firsts hw
    refine List.mem_map.2 ⟨m, mem_frontier.2 ⟨hm, fun x hx hlt ↦ ?_⟩, hvec⟩
    rw [hvec] at hlt
    exact hlt.not_ge (hmax (List.mem_map_of_mem hx) hlt.le)
  · intro hu
    obtain ⟨m, hm, rfl⟩ := List.mem_map.1 hu
    refine ⟨List.mem_map_of_mem ((frontier_sublist vs).subset hm), fun x hx hle ↦ ?_⟩
    obtain ⟨w, hw, rfl⟩ := List.mem_map.1 hx
    exact not_lt_iff_le_imp_ge.1 ((mem_frontier.1 hm).2 w hw) hle

theorem exists_le_of_mem (hw : w ∈ vs) : ∃ m ∈ frontier vs, w.vector ≤ m.vector := by
  have hfinite : {u | u ∈ vs.map (·.vector)}.Finite := List.finite_toSet _
  obtain ⟨u, hle, hmax⟩ := hfinite.exists_le_maximal (List.mem_map_of_mem hw)
  obtain ⟨m, hm, rfl⟩ := List.mem_map.1 (maximal_iff.1 hmax)
  exact ⟨m, hm, hle⟩

theorem exists_le_frontier_iff {x : VersionVector} :
    (∃ m ∈ frontier vs, x ≤ m.vector) ↔ ∃ w ∈ vs, x ≤ w.vector := by
  constructor
  · rintro ⟨m, hm, hle⟩
    exact ⟨m, (frontier_sublist vs).subset hm, hle⟩
  · rintro ⟨w, hw, hle⟩
    obtain ⟨m, hm, hwm⟩ := exists_le_of_mem hw
    exact ⟨m, hm, hle.trans hwm⟩

theorem frontier_concat_of_covered (h : ∃ w ∈ vs, v.vector ≤ w.vector) :
    frontier (vs ++ [v]) = frontier vs := by
  obtain ⟨w, hw, hle⟩ := h
  -- Whatever `v` dominates is dominated by `w` already.
  have hpred : ∀ x : Version, (vs ++ [v]).all (fun y ↦ y.relate x ≠ .dominates) =
      vs.all fun y ↦ y.relate x ≠ .dominates := by
    intro x
    rw [Bool.eq_iff_iff]
    simp only [List.all_eq_true, List.forall_mem_append, List.forall_mem_singleton,
      decide_eq_true_iff, ne_eq, relate_eq_dominates_iff, and_iff_left_iff_imp]
    exact fun hx hlt ↦ hx w hw (hlt.trans_le hle)
  rw [frontier, frontier]
  simp only [hpred]
  by_cases hmem : ∃ x ∈ vs, x.vector = v.vector
  · rw [firsts_concat_of_mem hmem]
  · rw [firsts_concat_of_new (by simpa using hmem), List.filter_append]
    have hlt : v.vector < w.vector := hle.lt_of_ne fun heq ↦ hmem ⟨w, hw, heq.symm⟩
    have hdrop : ¬∀ y ∈ vs, y.relate v ≠ .dominates :=
      fun hall ↦ hall w hw (relate_eq_dominates_iff.2 hlt)
    simpa using hdrop

/-- A version that brings something new joins what it does not dominate. -/
theorem frontier_concat_of_new (h : ¬∃ w ∈ vs, v.vector ≤ w.vector) :
    frontier (vs ++ [v]) = v.remaining (frontier vs) ++ [v] := by
  have hnot : ∀ w ∈ vs, ¬v.vector ≤ w.vector := fun w hw hle ↦ h ⟨w, hw, hle⟩
  rw [frontier, firsts_concat_of_new fun w hw heq ↦ hnot w hw heq.ge, List.filter_append,
    remaining, frontier, List.filter_filter]
  congr 1
  · refine List.filter_congr fun x _ ↦ ?_
    rw [List.all_append, Bool.and_comm, Bool.eq_iff_iff]
    simp
  · have hkeep : (∀ w ∈ vs, w.relate v ≠ .dominates) ∧ v.relate v ≠ .dominates :=
      ⟨fun w hw hrel ↦ hnot w hw (relate_eq_dominates_iff.1 hrel).le,
        fun hrel ↦ (relate_eq_dominates_iff.1 hrel).false⟩
    simpa using hkeep

theorem nodup_frontier (vs : List Version) : (frontier vs).Nodup := by
  refine (pairwise_frontier vs).imp fun hne ↦ ?_
  rintro rfl
  exact hne rfl

/-- If one vector alone is maximal, the frontier is the first version with this vector. -/
theorem frontier_eq_singleton {u : VersionVector}
    (h : ∀ x, Maximal (· ∈ vs.map (·.vector)) x ↔ x = u) :
    ∃ v, frontier vs = [v] ∧ vs.find? (·.vector = u) = some v := by
  have hnodup : ((frontier vs).map (·.vector)).Nodup := List.pairwise_map.2 (pairwise_frontier vs)
  have hperm : ((frontier vs).map (·.vector)).Perm [u] := by
    rw [List.perm_ext_iff_of_nodup hnodup (List.nodup_singleton u)]
    intro x
    rw [← maximal_iff, h, List.mem_singleton]
  obtain ⟨v, hv, rfl⟩ := List.map_eq_singleton_iff.1 (List.perm_singleton.1 hperm)
  have hmem : v ∈ frontier vs := hv ▸ List.mem_singleton_self v
  exact ⟨v, hv, mem_firsts.1 (mem_frontier.1 hmem).1⟩

/-- Some version is on the frontier, so if not several are, one is alone on it. -/
theorem exists_frontier_singleton (hne : vs ≠ []) (h : ¬2 ≤ (frontier vs).length) :
    ∃ v, frontier vs = [v] := by
  obtain ⟨w, hw⟩ := List.exists_mem_of_ne_nil vs hne
  obtain ⟨m, hm, -⟩ := exists_le_of_mem hw
  have hpos := List.length_pos_of_mem hm
  exact List.length_eq_one_iff.1 (by omega)

theorem two_le_length_frontier (hne : vs ≠ [])
    (h : ¬∃! u, Maximal (· ∈ vs.map (·.vector)) u) : 2 ≤ (frontier vs).length := by
  by_contra hlen
  obtain ⟨v, hv⟩ := exists_frontier_singleton hne hlen
  refine h ⟨v.vector, maximal_iff.2 (by simp [hv]), fun x hx ↦ ?_⟩
  simpa [hv] using maximal_iff.1 hx

section SameMembers

variable {ws : List Version} (h : ∀ v, v ∈ ws ↔ v ∈ vs)
include h

/-- The vectors on the frontier depend on nothing but which versions there are. -/
theorem mem_vectors_frontier_congr {u : VersionVector} :
    u ∈ (frontier ws).map (·.vector) ↔ u ∈ (frontier vs).map (·.vector) := by
  have hsame : ∀ u, u ∈ ws.map (·.vector) ↔ u ∈ vs.map (·.vector) := by simp [h]
  rw [← maximal_iff, ← maximal_iff]
  simp only [hsame]

theorem frontier_perm (heq : ∀ v ∈ vs, ∀ w ∈ vs, v.vector = w.vector → v = w) :
    (frontier ws).Perm (frontier vs) := by
  rw [List.perm_ext_iff_of_nodup (nodup_frontier ws) (nodup_frontier vs)]
  -- A version on one frontier shares its vector with one on the other, so it is that version.
  have hsub : ∀ v ∈ frontier ws, v ∈ vs := fun v hv ↦ (h v).1 ((frontier_sublist ws).subset hv)
  refine fun v ↦ ⟨fun hv ↦ ?_, fun hv ↦ ?_⟩
  · obtain ⟨m, hm, hvec⟩ :=
      List.mem_map.1 ((mem_vectors_frontier_congr h).1 (List.mem_map_of_mem hv))
    rwa [← heq m ((frontier_sublist vs).subset hm) v (hsub v hv) hvec]
  · obtain ⟨m, hm, hvec⟩ :=
      List.mem_map.1 ((mem_vectors_frontier_congr h).2 (List.mem_map_of_mem hv))
    rwa [← heq m (hsub m hm) v ((frontier_sublist vs).subset hv) hvec]

end SameMembers

end Version

namespace Replica

variable {r r' : Replica} {id : String} {vs : List Version}

/-! ## Versions that arrive one after the other -/

/-- Versions arrive one after the other, each at its time, at a store that does not fail. -/
def receiveEach (script : Script.Request → Script.Run) (arrivals : List (Timestamp × Version)) :
    StateM Replica (List (Except ReplicaError Outcome)) :=
  arrivals.mapM fun a ↦ (Host.sequential ⟨a.1, .none⟩ script).receive a.2

theorem run_receiveEach_cons {script : Script.Request → Script.Run} {a : Timestamp × Version}
    {arrivals : List (Timestamp × Version)} {result : Except ReplicaError Outcome}
    {results : List (Except ReplicaError Outcome)} {r₁ r₂ : Replica}
    (hfirst : r.receive ⟨a.1, .none⟩ a.2 = (r₁, .done result))
    (hrest : (receiveEach script arrivals).run r₁ = (results, r₂)) :
    (receiveEach script (a :: arrivals)).run r = (result :: results, r₂) := by
  rw [receiveEach, List.mapM_cons, StateT.run_bind, run_receive_of_done hfirst]
  change StateT.run (receiveEach script arrivals >>= fun rest ↦ pure (result :: rest)) r₁ = _
  rw [StateT.run_bind, hrest]
  rfl

/-- What holds of all versions so far goes on to hold when one more arrives, and the call for it
handles it in one step. -/
def Extends (holds : List Version → Replica → Prop) (a : Timestamp × Version) : Prop :=
  ∀ vs r, holds vs r → ∃ r' o, r.receive ⟨a.1, .none⟩ a.2 = (r', .done (.ok o)) ∧
    o.handled = true ∧ holds (vs ++ [a.2]) r'

/-- What every arrival extends holds of all of them, and no call for them fails. -/
theorem run_receiveEach {holds : List Version → Replica → Prop}
    {arrivals : List (Timestamp × Version)} (hext : ∀ a ∈ arrivals, Extends holds a)
    (script : Script.Request → Script.Run) (h : holds vs r) :
    ∃ (outcomes : List Outcome) (r' : Replica),
      (receiveEach script arrivals).run r = (outcomes.map .ok, r') ∧
      outcomes.length = arrivals.length ∧ (∀ o ∈ outcomes, o.handled = true) ∧
      holds (vs ++ arrivals.map (·.2)) r' := by
  induction arrivals generalizing vs r with
  | nil => exact ⟨[], r, rfl, rfl, by simp, by simpa using h⟩
  | cons a arrivals ih =>
    rw [List.forall_mem_cons] at hext
    obtain ⟨r₁, o, hfirst, ho, h₁⟩ := hext.1 vs r h
    obtain ⟨outcomes, r₂, hrest, hlen, houtcomes, h₂⟩ := ih hext.2 h₁
    refine ⟨o :: outcomes, r₂, run_receiveEach_cons hfirst hrest, congrArg Nat.succ hlen,
      List.forall_mem_cons.2 ⟨ho, houtcomes⟩, ?_⟩
    rwa [List.append_assoc] at h₂

/-! ## Gathering -/

/-- Versions of one document have arrived, and nothing was resolved. -/
structure Gathered (id : String) (vs : List Version) (r : Replica) : Prop where
  consistent : r.Consistent
  policy : r.policy = .none
  known : r.knownVersions id = Version.frontier vs
  elsewhere : ∀ other, other ≠ id → r.registry.get? other = none

theorem fresh_gathered (node : NodeId) (limit : Span) (id : String) :
    (fresh node .none limit).Gathered id [] :=
  ⟨fresh_consistent node .none limit, rfl, rfl, fun _ _ ↦ rfl⟩

theorem Gathered.covers_iff (h : r.Gathered id vs) {x : VersionVector} :
    r.Covers id x ↔ ∃ w ∈ vs, x ≤ w.vector := by
  rw [Covers, h.known, Version.exists_le_frontier_iff]

theorem Gathered.known_of_accepted {v : Version} (h : r.Gathered v.id vs)
    (advance : r.Advance (some v) r') (setup : r'.setup = r.setup) :
    r'.Gathered v.id (vs ++ [v]) := by
  have hconsistent := advance.consistent h.consistent
  cases advance with
  | replace _ check above store registry =>
    refine ⟨hconsistent, (policy_of_setup setup).trans h.policy, ?_, fun other hother ↦ ?_⟩
    · have hnew : ¬∃ w ∈ vs, v.vector ≤ w.vector := by
        rw [← h.covers_iff]
        rintro ⟨w, hw, hle⟩
        exact (above w hw).not_ge hle
      rw [h.known] at above
      rw [knownVersions_of_clean (registry ▸ Registry.get?_clear_self _ _),
        Store.get?_of_write_self store, Version.frontier_concat_of_new hnew,
        Version.remaining_eq_nil above]
      rfl
    · rw [registry, Registry.get?_clear_ne _ hother]
      exact h.elsewhere other hother

/-- Processing one more version changes what is known as the version changes the frontier. -/
theorem Gathered.process (h : r.Gathered id vs) (now : Timestamp) {v : Version} (hid : v.id = id)
    (hv : v.check = .ok ()) :
    ∃ r' o, r.process ⟨now, .none⟩ v = (r', .done (.ok o)) ∧ o.handled = true ∧
      r'.Gathered id (vs ++ [v]) := by
  subst hid
  have hconsistent := (process_begins ⟨now, .none⟩ h.consistent hv).consistent h.consistent
  have processes := process_processes ⟨now, .none⟩ h.consistent hv
  generalize r.process ⟨now, .none⟩ v = out at hconsistent processes
  cases processes with
  | rejected reason covered =>
    refine ⟨_, _, rfl, rfl, hconsistent, h.policy, ?_, h.elsewhere⟩
    rw [Version.frontier_concat_of_covered (h.covers_iff.1 covered)]
    exact h.known
  | accepted advance setup => exact ⟨_, _, rfl, rfl, h.known_of_accepted advance setup⟩
  | conflict sound new nonempty =>
    obtain ⟨r', hsettle, hsetup, hrecord⟩ :=
      settle_of_none (r := r.tick .detected) ⟨now, .none⟩ sound h.policy
    rw [hsettle] at hconsistent ⊢
    refine ⟨r', _, rfl, rfl, hconsistent, (policy_of_setup hsetup).trans h.policy, ?_,
      fun other hother ↦ ?_⟩
    · rw [knownVersions_of_recorded (Registry.get?_of_record_self sound hrecord),
        Version.frontier_concat_of_new fun hle ↦ new (h.covers_iff.2 hle), ← h.known]
    · rw [Registry.get?_of_record_ne sound hrecord hother]
      exact h.elsewhere other hother
  | failed e fault => simp [StoreFaults.none] at fault

theorem gathered_extends {a : Timestamp × Version} (h : a.2.id = id ∧ a.2.check = .ok ()) :
    Extends (fun vs r ↦ r.Gathered id vs) a := by
  intro vs r hr
  have hticked : (r.tick .received).Gathered id vs :=
    ⟨hr.consistent.congr rfl rfl, hr.policy, hr.known, hr.elsewhere⟩
  rw [receive, h.2]
  exact hticked.process a.1 h.1 h.2

theorem Gathered.of_singleton (h : r.Gathered id vs) {v : Version}
    (hv : Version.frontier vs = [v]) :
    (∀ other, r.registry.get? other = none) ∧ r.store.get? id = some v := by
  have hknown := h.known
  cases hc : r.registry.get? id with
  | some c =>
    obtain ⟨-, hsound, -⟩ := h.consistent.recorded id c hc
    have hsize := hsound.two_le_size
    rw [knownVersions_of_recorded hc, hv] at hknown
    simp [Conflict.size, hknown] at hsize
  | none =>
    rw [knownVersions_of_clean hc, hv] at hknown
    refine ⟨fun other ↦ ?_, Option.toList_eq_singleton_iff.1 hknown⟩
    by_cases hother : other = id
    · rw [hother, hc]
    · exact h.elsewhere other hother

theorem Gathered.of_two_le (h : r.Gathered id vs) (hv : 2 ≤ (Version.frontier vs).length) :
    r.registry.get? id = some ⟨id, Version.frontier vs⟩ := by
  have hknown := h.known
  cases hc : r.registry.get? id with
  | some c =>
    obtain ⟨rfl, -⟩ := h.consistent.recorded id c hc
    rw [← h.known, knownVersions_of_recorded hc]
  | none =>
    rw [knownVersions_of_clean hc] at hknown
    rw [← hknown] at hv
    have hlen := Option.length_toList_le (o := r.store.get? id)
    omega

theorem gathered_of_arrivals (node : NodeId) (limit : Span) (script : Script.Request → Script.Run)
    {arrivals : List (Timestamp × Version)}
    (h : ∀ a ∈ arrivals, a.2.id = id ∧ a.2.check = .ok ()) :
    ∃ (outcomes : List Outcome) (r : Replica),
      (receiveEach script arrivals).run (fresh node .none limit) = (outcomes.map .ok, r) ∧
      outcomes.length = arrivals.length ∧ (∀ o ∈ outcomes, o.handled = true) ∧
      r.Gathered id (arrivals.map (·.2)) :=
  run_receiveEach (fun a ha ↦ gathered_extends (h a ha)) script (fresh_gathered node limit id)

/-- Whatever versions of a document arrive where nothing is resolved, every call for them handles
its version. In the end, if exactly one vector is maximal among theirs, the first version with this
vector is stored and nothing is open; otherwise the frontier of all versions is the open conflict.
So the order and the number in which the same versions arrive do not matter to the vectors that are
known, nor to the known versions where equal vectors are those of equal versions. -/
theorem known_versions_are_frontier (node : NodeId) (limit : Span)
    (script : Script.Request → Script.Run) {arrivals : List (Timestamp × Version)}
    (hne : arrivals ≠ []) (h : ∀ a ∈ arrivals, a.2.id = id ∧ a.2.check = .ok ()) :
    let vs := arrivals.map (·.2)
    ∃ (outcomes : List Outcome) (r : Replica),
      (receiveEach script arrivals).run (fresh node .none limit) = (outcomes.map .ok, r) ∧
      outcomes.length = arrivals.length ∧ (∀ o ∈ outcomes, o.handled = true) ∧
      (∀ u, (∀ x, Maximal (· ∈ vs.map (·.vector)) x ↔ x = u) →
        (∀ other, r.registry.get? other = none) ∧
        ∃ v, vs.find? (·.vector = u) = some v ∧ r.store.get? id = some v) ∧
      ((¬∃! u, Maximal (· ∈ vs.map (·.vector)) u) →
        r.registry.get? id = some ⟨id, Version.frontier vs⟩ ∧
        ∀ other, other ≠ id → r.registry.get? other = none) ∧
      ∀ (node' : NodeId) (limit' : Span) (script' : Script.Request → Script.Run)
        (arrivals' : List (Timestamp × Version)), (∀ v, v ∈ arrivals'.map (·.2) ↔ v ∈ vs) →
        let r' := ((receiveEach script' arrivals').run (fresh node' .none limit')).2
        (∀ u, u ∈ (r'.knownVersions id).map (·.vector) ↔
          u ∈ (r.knownVersions id).map (·.vector)) ∧
        ((∀ v ∈ vs, ∀ w ∈ vs, v.vector = w.vector → v = w) →
          (r'.knownVersions id).Perm (r.knownVersions id)) := by
  intro vs
  have hvs : vs ≠ [] := fun hnil ↦ hne (List.map_eq_nil_iff.1 hnil)
  obtain ⟨outcomes, r, hrun, hlen, houtcomes, gathered⟩ :=
    gathered_of_arrivals node limit script h
  refine ⟨outcomes, r, hrun, hlen, houtcomes, fun u hu ↦ ?_, fun hmany ↦ ?_, ?_⟩
  · obtain ⟨v, hv, hfirst⟩ := Version.frontier_eq_singleton hu
    obtain ⟨hclean, hstored⟩ := gathered.of_singleton hv
    exact ⟨hclean, v, hfirst, hstored⟩
  · exact ⟨gathered.of_two_le (Version.two_le_length_frontier hvs hmany), gathered.elsewhere⟩
  · intro node' limit' script' arrivals' hsame r'
    have h' : ∀ a ∈ arrivals', a.2.id = id ∧ a.2.check = .ok () := by
      intro a ha
      obtain ⟨b, hb, hba⟩ := List.mem_map.1 ((hsame a.2).1 (List.mem_map_of_mem ha))
      exact hba ▸ h b hb
    obtain ⟨_, _, hrun', -, -, gathered'⟩ := gathered_of_arrivals node' limit' script' h'
    have hknown : r'.knownVersions id = Version.frontier (arrivals'.map (·.2)) := by
      rw [← gathered'.known]
      exact congrArg (fun out ↦ out.2.knownVersions id) hrun'
    rw [hknown, gathered.known]
    exact ⟨fun u ↦ Version.mem_vectors_frontier_congr hsame, Version.frontier_perm hsame⟩

/-- Two concurrent versions of a document, and the first of them once more. -/
def crossing : List (Timestamp × Version) :=
  [(7, .document "doc" "notes" [1] (.authored ⟨1⟩) 1),
    (8, .document "doc" "notes" [2] (.authored ⟨2⟩) 2),
    (9, .document "doc" "notes" [1] (.authored ⟨1⟩) 1)]

theorem known_versions_are_frontier_crossing :
    crossing ≠ [] ∧ (∀ a ∈ crossing, a.2.id = "doc" ∧ a.2.check = .ok ()) ∧
    ∃ (outcomes : List Outcome) (r : Replica),
      (receiveEach (fun _ ↦ ⟨⟨0⟩, .ok .noResult⟩) crossing).run
        (fresh ⟨3⟩ .none defaultLimit) = (outcomes.map .ok, r) ∧
      r.registry.get? "doc" = some ⟨"doc", (crossing.take 2).map (·.2)⟩ := by
  have hvalid : ∀ a ∈ crossing, a.2.id = "doc" ∧ a.2.check = .ok () := by decide
  obtain ⟨outcomes, r, hrun, -, -, -, hmany, -⟩ := known_versions_are_frontier ⟨3⟩ defaultLimit
    (fun _ ↦ ⟨⟨0⟩, .ok .noResult⟩) (by decide) hvalid
  refine ⟨by decide, hvalid, outcomes, r, hrun, ?_⟩
  have hfrontier : Version.frontier (crossing.map (·.2)) = (crossing.take 2).map (·.2) := by decide
  rw [← hfrontier]
  refine (hmany ?_).1
  rintro ⟨u, -, hunique⟩
  have hfirst := hunique (.authored ⟨1⟩) (Version.maximal_iff.2 (by decide))
  have hsecond := hunique (.authored ⟨2⟩) (Version.maximal_iff.2 (by decide))
  exact absurd (hfirst.trans hsecond.symm) (by decide)

end Replica

end CausalReplica
