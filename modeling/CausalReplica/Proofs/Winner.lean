import CausalReplica.Proofs.Frontier
import CausalReplica.Proofs.Rank

/-!
# The version that wins

Versions of a document may meet one after the other, each against what is stored by then, or all at
once, after they have been gathered under the policy that resolves nothing. Where ranks respect
causality this makes no difference: the greatest of all versions is stored in the end, with the
merge of all vectors.

One after the other, an arriving version is rejected, accepted or merged. If it is rejected the
stored merge covers it, so it does not outrank the winner so far; if it is accepted it covers all
that came before, so none of that outranks it; if it is merged the ranks are compared outright. All
at once, every version is covered by some version on the frontier, so the winner there outranks it.
-/

namespace CausalReplica

namespace Version

/-- The frontier covers the whole list, so it has the same merge. -/
theorem merged_frontier (vs : List Version) : merged (frontier vs) = merged vs := by
  refine le_antisymm (merged_le_iff.2 fun m hm ↦ ?_) (merged_le_iff.2 fun w hw ↦ ?_)
  · exact le_merged ((frontier_sublist vs).subset hm)
  · obtain ⟨m, hm, hle⟩ := exists_le_of_mem hw
    exact hle.trans (le_merged hm)

end Version

namespace Policy

theorem Respects.wins_of_frontier {p : Policy} {vs : List Version} {m : Version}
    (h : p.Respects vs) (hm : p.Wins (Version.frontier vs) m) : p.Wins vs m :=
  ⟨(Version.frontier_sublist vs).subset hm.mem, fun _ hv ↦
    h.isLE_of_wins hv (fun _ hw ↦ (Version.frontier_sublist vs).subset hw) hm
      ((Version.merged_frontier vs).symm ▸ Version.le_merged hv)⟩

end Policy

namespace Replica

variable {r r' : Replica} {p : Policy} {id : String} {vs all : List Version}

/-! ## One after the other -/

/-- Nothing has arrived, or the winner of what has arrived is stored with all vectors merged. -/
def Keeps (p : Policy) (id : String) (vs : List Version) (r : Replica) : Prop :=
  vs = [] ∧ r.store.get? id = none ∨
    ∃ m, p.Wins vs m ∧ r.store.get? id = some (m.withVector (Version.merged vs))

theorem Keeps.exists_wins {u : Version} (h : r.Keeps p id vs) (hu : r.store.get? id = some u) :
    ∃ m, p.Wins vs m ∧ m.withVector (Version.merged vs) = u := by
  rcases h with ⟨-, hnone⟩ | ⟨m, hm, hsome⟩
  · rw [hnone] at hu
    simp at hu
  · exact ⟨m, hm, Option.some.inj (hsome.symm.trans hu)⟩

/-- A version that arrives is rejected, accepted or merged with what is stored. In each case the
winner of all versions so far is stored afterwards. -/
theorem Arrives.keeps {v : Version} (h : r.Arrives v r') (hconsistent : r.Consistent)
    (hr : r.Keeps r.policy v.id vs) (hp : r.policy.decides = true)
    (hall : r.policy.Respects all) (hvs : ∀ w ∈ vs, w ∈ all) (hv : v ∈ all) :
    r'.Keeps r.policy v.id (vs ++ [v]) := by
  refine .inr ?_
  cases h with
  | rejected u stored below store =>
    obtain ⟨m, hm, rfl⟩ := hr.exists_wins stored
    have hle : v.vector ≤ Version.merged vs := below
    refine ⟨m, hm.concat (hall.isLE_of_wins hv hvs hm hle), ?_⟩
    rw [store, Version.merged_concat, stored, sup_eq_left.2 hle]
  | accepted above store =>
    have hle : Version.merged vs ≤ v.vector := by
      rcases hr with ⟨rfl, -⟩ | ⟨m, -, hsome⟩
      · exact Version.merged_le_iff.2 (by simp)
      · exact (above _ hsome).le
    refine ⟨v, Policy.wins_concat_self fun w hw ↦ ?_, ?_⟩
    · exact hall.isLE_of_le (hvs w hw) hv ((Version.le_merged hw).trans hle)
    · rw [Store.get?_of_write_self store, Version.merged_concat, sup_eq_right.2 hle]
      rfl
  | merged u w stored concurrent plan store =>
    obtain ⟨m, hm, rfl⟩ := hr.exists_wins stored
    obtain ⟨x, hx, hplan⟩ := Policy.exists_plan
      (c := ⟨v.id, [m.withVector (Version.merged vs), v]⟩) hp (by simp)
    obtain rfl := Resolution.resolved.inj (Resolution.Plan.settled.inj (hplan.symm.trans plan))
    have hvec : (Conflict.mk v.id [m.withVector (Version.merged vs), v]).mergedVector =
        Version.merged (vs ++ [v]) := by
      rw [Conflict.mergedVector_pair, Version.merged_concat]
      rfl
    have hself := Store.get?_of_write_self store
    rw [← hvec]
    rcases List.mem_pair.1 hx.mem with rfl | rfl
    · -- The stored version has the rank of the winner so far, and keeps it.
      have hle := hx.isLE v (by simp)
      rw [Policy.rankOrder_withVector_right] at hle
      obtain ⟨hid, -⟩ := hconsistent.stored v.id _ stored
      exact ⟨m, hm.concat hle, hid ▸ hself⟩
    · have hle := hx.isLE _ List.mem_cons_self
      rw [Policy.rankOrder_withVector_left] at hle
      exact ⟨x, Policy.wins_concat_self fun w hw ↦ Std.TransCmp.isLE_trans (hm.isLE w hw) hle, hself⟩

/-- Nothing is open, and the winner of what has arrived, all of it in the given list, is stored. -/
structure Decided (p : Policy) (id : String) (all vs : List Version) (r : Replica) : Prop where
  settled : r.Settled
  policy : r.policy = p
  keeps : r.Keeps p id vs
  mem : ∀ w ∈ vs, w ∈ all

theorem fresh_decided (hp : p.decides = true) (node : NodeId) (limit : Span) (id : String)
    (all : List Version) : (fresh node p limit).Decided p id all [] :=
  ⟨⟨fresh_consistent node p limit, hp, fun _ ↦ rfl⟩, rfl, .inl ⟨rfl, rfl⟩, fun _ hw ↦ by simp at hw⟩

theorem Settled.receive_arrives (hr : r.Settled) (now : Timestamp) {v : Version}
    (hv : v.check = .ok ()) :
    ∃ r' o, r.receive ⟨now, .none⟩ v = (r', .done (.ok o)) ∧ o.handled = true ∧ r'.Settled ∧
      r'.setup = r.setup ∧ r.Arrives v r' := by
  have hticked : (r.tick .received).Settled := hr.congr rfl rfl rfl
  obtain ⟨r', o, hprocess, hsetup, hregistry, harrives⟩ := hticked.process_arrives now v
  refine ⟨r', o, ?_, handled_of_process hticked.consistent hv hprocess,
    hticked.of_process _ hv hprocess hsetup hregistry, hsetup, harrives.of_tick⟩
  rw [receive, hv]
  exact hprocess

theorem decided_extends (hall : p.Respects all) {a : Timestamp × Version} (ha : a.2 ∈ all)
    (hid : a.2.id = id) (hcheck : a.2.check = .ok ()) : Extends (Decided p id all) a := by
  rintro vs r ⟨settled, rfl, keeps, mem⟩
  subst hid
  obtain ⟨r', o, hreceive, ho, hsettled, hsetup, harrives⟩ := settled.receive_arrives a.1 hcheck
  refine ⟨r', o, hreceive, ho, hsettled, policy_of_setup hsetup,
    harrives.keeps settled.consistent keeps settled.decides hall mem ha, fun w hw ↦ ?_⟩
  rcases List.mem_append.1 hw with hw | hw
  · exact mem w hw
  · rwa [List.mem_singleton.1 hw]

/-! ## All at once -/

theorem run_resolveAll_of_singleton {on : Conditions} {script : Script.Request → Script.Run}
    {o : Outcome} (hids : r.registry.ids = [id])
    (h : r.resolvePending on id = (r', some (.done (.ok o)))) :
    (Host.sequential on script).resolveAll.run r = (.ok [(id, o)], r') := by
  have hresolved : ((Host.sequential on script).resolvePending id).run r = (.ok (some o), r') := by
    rw [run_resolvePending_eq, h]
    rfl
  rw [run_resolveAll, hids, run_resolveEach_of_ok hresolved]
  rfl

theorem run_resolveAll_of_clean {on : Conditions} {script : Script.Request → Script.Run}
    (h : ∀ id, r.registry.get? id = none) :
    (Host.sequential on script).resolveAll.run r = (.ok [], r) := by
  rw [run_resolveAll, Registry.ids_eq_nil h]
  rfl

/-- Resolving all that is open after versions have been gathered stores their winner. -/
theorem Gathered.resolveAll (h : r.Gathered id vs) (hp : p.decides = true) (hvs : p.Respects vs)
    (hne : vs ≠ []) (now : Timestamp) (script : Script.Request → Script.Run) :
    ∃ (outcomes : List (String × Outcome)) (r' : Replica),
      (Host.sequential ⟨now, .none⟩ script).resolveAll.run (r.setPolicy p) = (.ok outcomes, r') ∧
      (∀ other, r'.registry.get? other = none) ∧
      ∃ m, p.Wins vs m ∧ r'.store.get? id = some (m.withVector (Version.merged vs)) := by
  have hmerged := Version.merged_frontier vs
  by_cases hlen : 2 ≤ (Version.frontier vs).length
  · -- The open conflict has the frontier for its members, and is resolved by the winner there.
    have hopen : (r.setPolicy p).registry.get? id = some ⟨id, Version.frontier vs⟩ :=
      h.of_two_le hlen
    have hids : (r.setPolicy p).registry.ids = [id] :=
      Registry.ids_eq_singleton (Option.ne_none_iff_exists'.2 ⟨_, hopen⟩) h.elsewhere
    obtain ⟨w, hw, hplan⟩ := Policy.exists_plan (c := ⟨id, Version.frontier vs⟩) hp
      (List.ne_nil_of_length_pos (Nat.lt_of_lt_of_le Nat.two_pos hlen))
    obtain ⟨r', hsettle, -, hstore, hregistry⟩ :=
      settle_of_decides (r := r.setPolicy p) hp now hplan
    have hpending : (r.setPolicy p).resolvePending ⟨now, .none⟩ id =
        (r', some (.done (.ok (.resolved w.tombstone)))) := by
      rw [resolvePending, hopen]
      simp only [hsettle]
      rfl
    refine ⟨_, r', run_resolveAll_of_singleton hids hpending, fun other ↦ ?_, w,
      hvs.wins_of_frontier hw, ?_⟩
    · rw [hregistry]
      by_cases hother : other = id
      · rw [hother, Registry.get?_clear_self]
      · rw [Registry.get?_clear_ne _ hother]
        exact h.elsewhere other hother
    · obtain ⟨-, hsound, -⟩ := h.consistent.recorded id _ hopen
      have hid : w.id = id := (hsound.member w hw.mem).1
      rw [← hmerged, ← hid]
      exact Store.get?_of_write_self hstore
  · -- A single version on the frontier is stored already.
    obtain ⟨v, hv⟩ := Version.exists_frontier_singleton hne hlen
    obtain ⟨hclean, hstored⟩ := h.of_singleton hv
    have hwins : p.Wins (Version.frontier vs) v :=
      hv ▸ Policy.wins_singleton p v
    refine ⟨[], r.setPolicy p, run_resolveAll_of_clean hclean, hclean, v,
      hvs.wins_of_frontier hwins, ?_⟩
    rw [← hmerged, hv, Version.merged_singleton]
    exact hstored

/-- Where ranks respect causality, it does not matter in which order, how often and when versions of
a document meet. If they arrive one after the other under a policy that decides, no conflict is open
in the end, and the greatest version is stored with the merge of all vectors. The same is stored if
they are gathered first and the open conflicts resolved then. No call fails. -/
theorem greatest_version_is_stored {p : Policy} (hp : p.decides = true) {vs : List Version}
    (hne : vs ≠ []) (hvs : ∀ v ∈ vs, v.id = id ∧ v.check = .ok ()) (hrespects : p.Respects vs) :
    ∃ m, p.Wins vs m ∧ ∀ (node : NodeId) (limit : Span) (script : Script.Request → Script.Run)
      (arrivals : List (Timestamp × Version)), (∀ v, v ∈ arrivals.map (·.2) ↔ v ∈ vs) →
      let winner := m.withVector (.mergeAll (vs.map (·.vector)))
      (∃ (outcomes : List Outcome) (r : Replica),
        (receiveEach script arrivals).run (fresh node p limit) = (outcomes.map .ok, r) ∧
        (∀ other, r.registry.get? other = none) ∧ r.store.get? id = some winner) ∧
      ∀ now, ∃ (outcomes : List Outcome) (gathered : Replica)
        (resolved : List (String × Outcome)) (r : Replica),
        (receiveEach script arrivals).run (fresh node .none limit) =
          (outcomes.map .ok, gathered) ∧
        (Host.sequential ⟨now, .none⟩ script).resolveAll.run (gathered.setPolicy p) =
          (.ok resolved, r) ∧
        (∀ other, r.registry.get? other = none) ∧ r.store.get? id = some winner := by
  obtain ⟨m, hm⟩ := Policy.exists_wins hp hne
  refine ⟨m, hm, fun node limit script arrivals hsame ↦ ?_⟩
  have hmem : ∀ a ∈ arrivals, a.2 ∈ vs := fun a ha ↦ (hsame a.2).1 (List.mem_map_of_mem ha)
  have hvalid : ∀ a ∈ arrivals, a.2.id = id ∧ a.2.check = .ok () := fun a ha ↦ hvs a.2 (hmem a ha)
  have hnil : arrivals.map (·.2) ≠ [] := List.ne_nil_of_mem ((hsame m).2 hm.mem)
  -- Whichever version won, it differs from `m` in its vector only.
  have hwinner : ∀ x, p.Wins (arrivals.map (·.2)) x →
      x.withVector (Version.merged (arrivals.map (·.2))) = m.withVector (Version.merged vs) := by
    intro x hx
    have hxvs : p.Wins vs x := hx.congr fun v ↦ (hsame v).symm
    rw [Version.merged_congr hsame]
    exact hxvs.withVector_eq hm ((hvs x hxvs.mem).1.trans (hvs m hm.mem).1.symm) _
  constructor
  · obtain ⟨outcomes, r, hrun, -, -, decided⟩ := run_receiveEach
      (fun a ha ↦ decided_extends hrespects (hmem a ha) (hvalid a ha).1 (hvalid a ha).2) script
      (fresh_decided hp node limit id vs)
    refine ⟨outcomes, r, hrun, decided.settled.clean, ?_⟩
    rcases decided.keeps with ⟨harrivals, -⟩ | ⟨x, hx, hstored⟩
    · exact absurd harrivals hnil
    · exact hstored.trans (congrArg some (hwinner x hx))
  · intro now
    obtain ⟨outcomes, gathered, hrun, -, -, h⟩ := gathered_of_arrivals node limit script hvalid
    obtain ⟨resolved, r, hresolve, hclean, x, hx, hstored⟩ :=
      h.resolveAll hp (hrespects.congr hsame) hnil now script
    exact ⟨outcomes, gathered, resolved, r, hrun, hresolve, hclean,
      hstored.trans (congrArg some (hwinner x hx))⟩

/-- A document that one node changes while another one deletes it, the later change first. -/
def race : List Version :=
  [.document "doc" "notes" [1] (.authored ⟨1⟩) 5, .deleted "doc" "notes" (.authored ⟨2⟩) 3]

/-- The deletion wins though it is earlier, and though the change arrives before and after it. -/
theorem greatest_version_is_stored_race :
    Policy.decides .tombstone = true ∧ race ≠ [] ∧
    (∀ v ∈ race, v.id = "doc" ∧ v.check = .ok ()) ∧ Policy.Respects .tombstone race ∧
    ∃ (outcomes : List Outcome) (r : Replica),
      (receiveEach (fun _ ↦ ⟨⟨0⟩, .ok .noResult⟩) ((race ++ race.reverse).map (7, ·))).run
        (fresh ⟨3⟩ .tombstone defaultLimit) = (outcomes.map .ok, r) ∧
      r.store.get? "doc" = some (.withVector (.deleted "doc" "notes" (.authored ⟨2⟩) 3)
        (.merge (.authored ⟨1⟩) (.authored ⟨2⟩))) := by
  have hvalid : ∀ v ∈ race, v.id = "doc" ∧ v.check = .ok () := by decide
  have hrespects : Policy.Respects .tombstone race := by decide
  obtain ⟨m, hm, hstored⟩ := greatest_version_is_stored rfl (by decide) hvalid hrespects
  obtain ⟨⟨outcomes, r, hrun, -, hget⟩, -⟩ := hstored ⟨3⟩ defaultLimit
    (fun _ ↦ ⟨⟨0⟩, .ok .noResult⟩) ((race ++ race.reverse).map (7, ·)) fun v ↦ by simp
  refine ⟨rfl, by decide, hvalid, hrespects, outcomes, r, hrun, hget.trans ?_⟩
  rcases List.mem_pair.1 hm.mem with rfl | rfl
  · exact absurd (hm.isLE (.deleted "doc" "notes" (.authored ⟨2⟩) 3) (by decide)) (by decide)
  · rfl

end Replica

end CausalReplica
