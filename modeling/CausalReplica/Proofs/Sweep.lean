import CausalReplica.Proofs.Locality

/-!
# Sweeps over all open conflicts

A sweep resolves the open conflicts one after the other, in order of their ids. Under a policy that
settles every conflict at once it can fail at a conflict for one reason only, that the resolved
version cannot be written. It ends there. The conflicts that it came to before are resolved, and all
the others are as they were, whether their documents can be written or not.

The induction is over the ids that are left. Resolving the conflict of one document leaves the
conflicts of all other documents as they are, so those that are left are the recorded ones still.
-/

namespace CausalReplica

namespace Replica

variable {r : Replica} {on : Conditions} {script : Script.Request → Script.Run} {c : Conflict}

/-- The documents that a sweep gets done: those before the first one whose writes fail. -/
def swept (on : Conditions) (ids : List String) : List String :=
  ids.takeWhile fun id ↦ (on.faults.write id).isNone

/-! ## One conflict -/

theorem resolution_of_decides (hp : r.policy.decides = true)
    (script : Script.Request → Script.Run) (hc : c.Sound) :
    ∃ w, Resolution.plan r.policy c = .settled (.resolved w) ∧
      r.resolution script c = .resolved w := by
  obtain ⟨m, hm⟩ := hc.exists_member
  obtain ⟨w, hplan⟩ := plan_of_decides hp (List.ne_nil_of_mem hm)
  exact ⟨w, hplan, by rw [resolution, Resolver.resolve, hplan]⟩

theorem resolvePending_settles (on : Conditions) (script : Script.Request → Script.Run)
    (hc : c.Sound) (hget : r.registry.get? c.id = some c) : ∃ answer r',
      ((Host.sequential on script).resolvePending c.id).run r = (answer.map some, r') ∧
      (answer, r'.kept c.id) = r.settlement on script c ∧ r'.setup = r.setup ∧
      ∀ d, d ≠ c.id → r'.kept d = r.kept d := by
  obtain ⟨hsetup, hout, hkept⟩ := (settle_settles on script r hc).eq_settlement hc
  exact ⟨_, _, run_resolvePending on script hget, hout, hsetup, hkept⟩

theorem resolvePending_of_served (script : Script.Request → Script.Run)
    (hp : r.policy.decides = true) (hc : c.Sound) (hget : r.registry.get? c.id = some c)
    (hw : on.faults.write c.id = none) : ∃ w r',
      Resolution.plan r.policy c = .settled (.resolved w) ∧
      ((Host.sequential on script).resolvePending c.id).run r =
        (.ok (some (.resolved w.tombstone)), r') ∧
      r'.setup = r.setup ∧ r'.kept c.id = (some w, none) ∧
      ∀ d, d ≠ c.id → r'.kept d = r.kept d := by
  obtain ⟨w, hplan, hresolution⟩ := resolution_of_decides hp script hc
  obtain ⟨answer, r', hrun, hout, hsetup, hkept⟩ := resolvePending_settles on script hc hget
  simp only [settlement, hresolution, hw] at hout
  obtain ⟨rfl, hmine⟩ := Prod.mk.inj hout
  exact ⟨w, r', hplan, hrun, hsetup, hmine, hkept⟩

theorem resolvePending_of_refused (script : Script.Request → Script.Run)
    (hp : r.policy.decides = true) (hc : c.Sound) (hget : r.registry.get? c.id = some c)
    {error : StoreError} (hw : on.faults.write c.id = some error) : ∃ r',
      ((Host.sequential on script).resolvePending c.id).run r = (.error (.store error), r') ∧
        ∀ d, r'.kept d = r.kept d := by
  obtain ⟨w, -, hresolution⟩ := resolution_of_decides hp script hc
  obtain ⟨answer, r', hrun, hout, -, hkept⟩ := resolvePending_settles on script hc hget
  simp only [settlement, hresolution, hw, Policy.usesScripts_of_decides hp] at hout
  obtain ⟨rfl, hmine⟩ := Prod.mk.inj hout
  refine ⟨r', hrun, fun d ↦ ?_⟩
  by_cases hd : d = c.id
  · rw [hd]
    exact hmine
  · exact hkept d hd

/-! ## One conflict after the other -/

/-- What a sweep over some documents comes to. -/
structure Sweeps (on : Conditions) (r : Replica) (ids : List String)
    (out : Except ReplicaError (List (String × Outcome)) × Replica) : Prop where
  /-- Every conflict that it gets done is replaced by the version that the policy computes. -/
  resolved : ∀ id ∈ swept on ids, ∀ c, r.registry.get? id = some c →
    ∃ w, Resolution.plan r.policy c = .settled (.resolved w) ∧ out.2.kept id = (some w, none)
  untouched : ∀ d, d ∉ swept on ids → out.2.kept d = r.kept d
  finished : (∀ id ∈ ids, on.faults.write id = none) →
    ∃ outcomes, out.1 = .ok outcomes ∧ outcomes.map (·.1) = ids
  /-- It fails with the error of the first document whose writes fail. -/
  stopped : ∀ id error, ids.find? (fun id ↦ (on.faults.write id).isSome) = some id →
    on.faults.write id = some error → out.1 = .error (.store error)

variable {id : String} {ids : List String} {r' : Replica}
  {out : Except ReplicaError (List (String × Outcome)) × Replica}

/-- A sweep ends at a document whose writes fail. -/
theorem Sweeps.of_refused {error : StoreError} (hw : on.faults.write id = some error)
    (hsame : ∀ d, r'.kept d = r.kept d) :
    Sweeps on r (id :: ids) (.error (.store error), r') := by
  have hswept : swept on (id :: ids) = [] := by simp [swept, hw]
  refine ⟨fun other hother ↦ ?_, fun d _ ↦ hsame d, fun hserved ↦ ?_,
    fun other error' hfirst hfault ↦ ?_⟩
  · rw [hswept] at hother
    cases hother
  · rw [hserved id List.mem_cons_self] at hw
    cases hw
  · rw [List.find?_cons_of_pos (by rw [hw]; rfl)] at hfirst
    obtain rfl := Option.some.inj hfirst
    obtain rfl := Option.some.inj (hw.symm.trans hfault)
    rfl

/-- A sweep goes on behind a conflict that it has resolved. -/
theorem Sweeps.of_served {w : Version} (rest : Sweeps on r' ids out) (hid : id ∉ ids)
    (hw : on.faults.write id = none) (hpolicy : r'.policy = r.policy)
    (hplan : ∀ c, r.registry.get? id = some c →
      Resolution.plan r.policy c = .settled (.resolved w))
    (hmine : r'.kept id = (some w, none)) (hkept : ∀ d, d ≠ id → r'.kept d = r.kept d)
    (o : Outcome) : Sweeps on r (id :: ids) (out.1.map ((id, o) :: ·), out.2) := by
  have hswept : swept on (id :: ids) = id :: swept on ids := by simp [swept, hw]
  have hsub : swept on ids ⊆ ids := (List.takeWhile_sublist _).subset
  refine ⟨fun other hother c hget ↦ ?_, fun d hd ↦ ?_, fun hserved ↦ ?_,
    fun other error hfirst hfault ↦ ?_⟩
  · rw [hswept] at hother
    rcases List.mem_cons.1 hother with rfl | hother
    · exact ⟨w, hplan c hget, (rest.untouched other fun hmem ↦ hid (hsub hmem)).trans hmine⟩
    · have hne : other ≠ id := fun heq ↦ hid (heq ▸ hsub hother)
      rw [← hpolicy]
      exact rest.resolved other hother c ((congrArg Prod.snd (hkept other hne)).trans hget)
  · rw [hswept, List.mem_cons, not_or] at hd
    exact (rest.untouched d hd.2).trans (hkept d hd.1)
  · obtain ⟨outcomes, hok, hmap⟩ :=
      rest.finished fun other hother ↦ hserved other (List.mem_cons_of_mem _ hother)
    refine ⟨(id, o) :: outcomes, ?_, by rw [List.map_cons, hmap]⟩
    simp only [hok]
    rfl
  · rw [List.find?_cons_of_neg (by simp [hw])] at hfirst
    simp only [rest.stopped other error hfirst hfault]
    rfl

theorem resolveEach_sweeps (on : Conditions) (script : Script.Request → Script.Run)
    (hp : r.policy.decides = true) (hids : ids.Nodup)
    (hopen : ∀ id ∈ ids, ∃ c, r.registry.get? id = some c ∧ c.id = id ∧ c.Sound) :
    Sweeps on r ids (((Host.sequential on script).resolveEach ids).run r) := by
  induction ids generalizing r with
  | nil =>
    refine ⟨fun id hid ↦ ?_, fun d _ ↦ rfl, fun _ ↦ ⟨[], rfl, rfl⟩, fun id error hfirst ↦ ?_⟩
    · cases hid
    · cases hfirst
  | cons id ids ih =>
    obtain ⟨hid, hnodup⟩ := List.nodup_cons.1 hids
    obtain ⟨c, hget, rfl, hsound⟩ := hopen id List.mem_cons_self
    cases hw : on.faults.write c.id with
    | some error =>
      obtain ⟨r', hrun, hsame⟩ := resolvePending_of_refused script hp hsound hget hw
      rw [run_resolveEach_of_error hrun]
      exact .of_refused hw hsame
    | none =>
      obtain ⟨w, r', hplan, hrun, hsetup, hmine, hkept⟩ :=
        resolvePending_of_served script hp hsound hget hw
      have hpolicy := policy_of_setup hsetup
      -- No id comes twice, so the conflicts that are left are recorded as before.
      have hopen' : ∀ id ∈ ids, ∃ c, r'.registry.get? id = some c ∧ c.id = id ∧ c.Sound := by
        intro id hmem
        have hrecorded : r'.registry.get? id = r.registry.get? id :=
          congrArg Prod.snd (hkept id fun heq ↦ hid (heq ▸ hmem))
        rw [hrecorded]
        exact hopen id (List.mem_cons_of_mem _ hmem)
      rw [run_resolveEach_of_ok hrun]
      refine .of_served (ih (hpolicy ▸ hp) hnodup hopen') hid hw hpolicy (fun c' hget' ↦ ?_) hmine
        hkept _
      obtain rfl := Option.some.inj (hget.symm.trans hget')
      exact hplan

theorem resolveAll_sweeps (on : Conditions) (script : Script.Request → Script.Run)
    (hr : r.Consistent) (hp : r.policy.decides = true) :
    Sweeps on r r.registry.ids (((Host.sequential on script).resolveAll).run r) := by
  rw [run_resolveAll]
  refine resolveEach_sweeps on script hp r.registry.conflicts.nodup_keys fun id hid ↦ ?_
  obtain ⟨c, hget⟩ := Option.ne_none_iff_exists'.1 (Registry.mem_ids.1 hid)
  obtain ⟨hcid, hsound, -⟩ := hr.recorded id c hget
  exact ⟨c, hget, hcid, hsound⟩

end Replica

namespace System

/-- A sweep over all open conflicts, under a policy that settles every conflict at once, takes them
in order of their ids up to the first document whose writes fail. The conflicts before it are
replaced by the versions that the policy computes from them, and nothing else changes. The sweep
fails with the error of that document, and it answers for all conflicts where there is no such
document. -/
theorem sweep_stops_at_first_failure (node : NodeId) (policy : Policy) (limit : Span)
    (steps : List (Conditions × Action))
    (hp : ((fresh node policy limit).run steps).replica.policy.decides = true) (on : Conditions)
    (script : Script.Request → Script.Run) :
    let r := ((fresh node policy limit).run steps).replica
    let done := Replica.swept on r.registry.ids
    let out := ((Host.sequential on script).resolveAll).run r
    (∀ id, out.2.registry.get? id = if id ∈ done then none else r.registry.get? id) ∧
    (∀ id ∈ done, ∃ c w, r.registry.get? id = some c ∧
      Resolution.plan r.policy c = .settled (.resolved w) ∧ out.2.store.get? id = some w) ∧
    (∀ id, id ∉ done → out.2.store.get? id = r.store.get? id) ∧
    ((∀ id ∈ r.registry.ids, on.faults.write id = none) →
      ∃ outcomes, out.1 = .ok outcomes ∧ outcomes.map (·.1) = r.registry.ids) ∧
    ∀ id error, r.registry.ids.find? (fun id ↦ (on.faults.write id).isSome) = some id →
      on.faults.write id = some error → out.1 = .error (.store error) := by
  intro r done out
  have hr : r.Consistent := (run_valid (fresh_valid node policy limit) steps).consistent
  have sweeps : r.Sweeps on r.registry.ids out := Replica.resolveAll_sweeps on script hr hp
  have hresolved : ∀ id ∈ done, ∃ c w, r.registry.get? id = some c ∧
      Resolution.plan r.policy c = .settled (.resolved w) ∧ out.2.kept id = (some w, none) := by
    intro id hid
    have hmem : id ∈ r.registry.ids := (List.takeWhile_sublist _).subset hid
    obtain ⟨c, hget⟩ := Option.ne_none_iff_exists'.1 (Registry.mem_ids.1 hmem)
    obtain ⟨w, hplan, hkept⟩ := sweeps.resolved id hid c hget
    exact ⟨c, w, hget, hplan, hkept⟩
  refine ⟨fun id ↦ ?_, fun id hid ↦ ?_, fun id hid ↦ ?_, sweeps.finished, sweeps.stopped⟩
  · split <;> rename_i hid
    · obtain ⟨c, w, -, -, hkept⟩ := hresolved id hid
      exact congrArg Prod.snd hkept
    · exact congrArg Prod.snd (sweeps.untouched id hid)
  · obtain ⟨c, w, hget, hplan, hkept⟩ := hresolved id hid
    exact ⟨c, w, hget, hplan, congrArg Prod.fst hkept⟩
  · exact congrArg Prod.fst (sweeps.untouched id hid)

/-- Two documents have open conflicts, and from now on the latest version is to win. -/
def twoOpen : List (Conditions × Action) :=
  [(⟨1, .none⟩, .receive (.document "a" "notes" [1] (.authored ⟨1⟩) 1)),
    (⟨2, .none⟩, .receive (.document "a" "notes" [2] (.authored ⟨2⟩) 2)),
    (⟨3, .none⟩, .receive (.document "b" "notes" [1] (.authored ⟨1⟩) 1)),
    (⟨4, .none⟩, .receive (.document "b" "notes" [2] (.authored ⟨2⟩) 2)),
    (⟨5, .none⟩, .setPolicy .latest)]

/-- The sweep over both conflicts where the given documents cannot be written. -/
def sweepTwo (refused : List String) :
    Except ReplicaError (List (String × Outcome)) × Replica :=
  ((Host.sequential ⟨9, .failing refused [] false⟩ fun _ ↦ ⟨⟨0⟩, .ok .noResult⟩).resolveAll).run
    ((fresh ⟨3⟩ .none Replica.defaultLimit).run twoOpen).replica

set_option maxRecDepth 2000 in
/-- Where the second document cannot be written, the first one is resolved and the sweep fails. -/
theorem sweep_stops_at_first_failure_second :
    let r := ((fresh ⟨3⟩ .none Replica.defaultLimit).run twoOpen).replica
    r.policy.decides = true ∧ (∃ w, (sweepTwo ["b"]).2.store.get? "a" = some w) ∧
      (sweepTwo ["b"]).2.registry.get? "a" = none ∧
      (sweepTwo ["b"]).2.registry.get? "b" = r.registry.get? "b" ∧
      (sweepTwo ["b"]).1 = .error (.store (.writeFailed "b" "disk full")) := by
  intro r
  have hp : r.policy.decides = true := rfl
  have ha : "a" ∈ Replica.swept ⟨9, .failing ["b"] [] false⟩ r.registry.ids := by decide
  have hb : "b" ∉ Replica.swept ⟨9, .failing ["b"] [] false⟩ r.registry.ids := by decide
  have hfirst : r.registry.ids.find? (fun id ↦
      ((StoreFaults.failing ["b"] [] false).write id).isSome) = some "b" := by decide
  obtain ⟨hrecorded, hstored, -, -, hfailed⟩ := sweep_stops_at_first_failure ⟨3⟩ .none
    Replica.defaultLimit twoOpen hp ⟨9, .failing ["b"] [] false⟩ fun _ ↦ ⟨⟨0⟩, .ok .noResult⟩
  obtain ⟨c, w, -, -, hw⟩ := hstored "a" ha
  exact ⟨hp, ⟨w, hw⟩, (hrecorded "a").trans (if_pos ha), (hrecorded "b").trans (if_neg hb),
    hfailed "b" (.writeFailed "b" "disk full") hfirst rfl⟩

set_option maxRecDepth 2000 in
/-- A document that cannot be written keeps the sweep from the conflict of another document. -/
theorem failure_keeps_other_conflict_open : ¬∀ (node : NodeId) (policy : Policy) (limit : Span)
    (steps : List (Conditions × Action)) (on : Conditions)
    (script : Script.Request → Script.Run),
    let r := ((fresh node policy limit).run steps).replica
    r.policy = .latest ∨ r.policy = .tombstone →
    let out := ((Host.sequential on script).resolveAll).run r
    (∀ id, out.2.registry.get? id ≠ none ↔
      r.registry.get? id ≠ none ∧ on.faults.write id ≠ none) ∧
    ∀ id c, r.registry.get? id = some c → on.faults.write id = none → ∃ w,
      Resolution.plan r.policy c = .settled (.resolved w) ∧ out.2.store.get? id = some w := by
  intro h
  obtain ⟨hopen, -⟩ := h ⟨3⟩ .none Replica.defaultLimit twoOpen ⟨9, .failing ["a"] [] false⟩
    (fun _ ↦ ⟨⟨0⟩, .ok .noResult⟩) (.inl rfl)
  have hstays : (sweepTwo ["a"]).2.registry.get? "b" ≠ none := by decide
  obtain ⟨-, hfault⟩ := (hopen "b").1 hstays
  exact hfault (by decide)

end System

end CausalReplica
