import CausalReplica.Proofs.Flights

/-!
# Every conflict is attended

A call whose conflict has changed gives up and does not try again, so it is left to some other call
that the conflict gets resolved. That is enough: under a fixed policy with scripts, where all
versions of a document name one collection with a script and every script decides in time, each
recorded conflict is the one that some call in flight holds.

The call that recorded the conflict last holds it. Any other change takes the conflict away, and a
call that ends while its conflict is still recorded resolves it. So where no call is in flight no
conflict is open.
-/

namespace CausalReplica

/-- The version names the collection of its document, and the collection has a script. -/
def Version.Scripted (scripts : Dict String String) (home : String → String) (v : Version) : Prop :=
  v.collection = home v.id ∧ (scripts.find? (home v.id)).isSome

variable {scripts : Dict String String} {home : String → String}

/-! ## Plans -/

namespace Conflict

theorem collection?_of_forall {c : Conflict} {name : String}
    (h : ∀ m ∈ c.members, m.collection = name) (hne : c.members ≠ []) :
    c.collection? = some name := by
  have hcanonical : ∀ m ∈ c.canonical, m.collection = name := fun m hm ↦
    h m (c.canonical_perm.mem_iff.1 hm)
  rw [collection?]
  cases hfind : c.canonical.find? (!·.tombstone) with
  | some m => exact congrArg some (hcanonical m (List.mem_of_find?_eq_some hfind))
  | none =>
    cases hhead : c.canonical.head? with
    | some m => exact congrArg some (hcanonical m (List.mem_of_head? hhead))
    | none =>
      rw [List.head?_eq_none_iff] at hhead
      have hperm := c.canonical_perm
      rw [hhead] at hperm
      exact absurd hperm.nil_eq.symm hne

theorem hasMixedCollections_of_forall {c : Conflict} {name : String}
    (h : ∀ m ∈ c.members, m.collection = name) : c.hasMixedCollections = false := by
  refine Bool.eq_false_of_not_eq_true fun hmixed ↦ ?_
  obtain ⟨v, hv, w, hw, -, -, hne⟩ := hasMixedCollections_iff.1 hmixed
  exact hne ((h v hv).trans (h w hw).symm)

/-- A conflict of versions that name one collection with a script is left to that script. -/
theorem plan_of_scripted {c : Conflict} (hc : c.Sound)
    (h : ∀ m ∈ c.members, m.Scripted scripts home) : ∃ request,
      Resolution.plan (.scripts scripts) c = .ask request ∧ request.collection = home c.id ∧
        (scripts.find? (home c.id)).isSome := by
  obtain ⟨m, hm⟩ := hc.exists_member
  have hname : ∀ m ∈ c.members, m.collection = home c.id := fun m hm ↦ by
    rw [(h m hm).1, (hc.member m hm).1]
  have hscript : (scripts.find? (home c.id)).isSome := by
    rw [← (hc.member m hm).1]
    exact (h m hm).2
  obtain ⟨script, hfind⟩ := Option.isSome_iff_exists.1 hscript
  refine ⟨c.scriptRequest script (home c.id), ?_, rfl, hscript⟩
  rw [Resolution.plan, hasMixedCollections_of_forall hname,
    collection?_of_forall hname (List.ne_nil_of_mem hm)]
  simp [hfind]

end Conflict

theorem Resolution.ofResult_of_decided (c : Conflict) (request : Script.Request)
    {answer : Script.Answer} (h : answer ≠ .noResult) :
    ∃ v, ofResult c request (.ok answer) = .resolved v ∧ v.id = c.id ∧
      v.collection = request.collection := by
  cases answer with
  | document body => exact ⟨_, rfl, rfl, rfl⟩
  | tombstone => exact ⟨_, rfl, rfl, rfl⟩
  | noResult => exact absurd rfl h

namespace Replica

theorem knownVersions_of_replaced {r r' : Replica} {v : Version}
    (store : r.store.write v = .ok r'.store) (registry : r'.registry = r.registry.clear v.id)
    (id : String) : r'.knownVersions id = if id = v.id then [v] else r.knownVersions id := by
  split <;> rename_i hid
  · rw [hid, knownVersions_of_clean (registry ▸ Registry.get?_clear_self _ _),
      Store.get?_of_write_self store]
    rfl
  · exact knownVersions_congr (Store.get?_of_write_ne store hid)
      (registry ▸ Registry.get?_clear_ne _ hid)

theorem collection_of_write {on : Conditions} {r : Replica} {id collection : String}
    {payload : Option Bytes} {v : Version}
    (h : (r.write on id collection payload).2 = .ok v) : v.collection = collection := by
  obtain ⟨vector, rfl⟩ := form_of_write h
  cases payload <;> rfl

end Replica

namespace System

/-! ## The invariant -/

/-- The actions of an environment in which every conflict can be resolved: the store does not fail,
the policy stays, versions name the collection of their document, which has a script, and a script
decides within the limit. -/
inductive Cooperates (scripts : Dict String String) (home : String → String) (limit : Span) :
    Conditions × Action → Prop
  | receive (now : Timestamp) (v : Version)
    (scripted : v.check = .ok () → v.Scripted scripts home) :
    Cooperates scripts home limit (⟨now, .none⟩, .receive v)
  | deliver (now : Timestamp) (d : Delivery)
    (scripted : ∀ raw v, d = .ok raw → Version.ofWire raw = .ok v → v.Scripted scripts home) :
    Cooperates scripts home limit (⟨now, .none⟩, .deliver d)
  | write (now : Timestamp) (id : String) (payload : Option Bytes)
    (script : (scripts.find? (home id)).isSome) :
    Cooperates scripts home limit (⟨now, .none⟩, .write id (home id) payload)
  | resolve (now : Timestamp) (id : String) :
    Cooperates scripts home limit (⟨now, .none⟩, .resolve id)
  | resume (now : Timestamp) (i : ℕ) (elapsed : Span) (answer : Script.Answer)
    (inTime : elapsed.nanos ≤ limit.nanos) (decided : answer ≠ .noResult) :
    Cooperates scripts home limit (⟨now, .none⟩, .resume i ⟨elapsed, .ok answer⟩)

/-- Every recorded conflict is the one that some call in flight holds, and every call in flight can
resolve the conflict that it holds. -/
structure Attended (scripts : Dict String String) (home : String → String) (limit : Span)
    (s : System) : Prop where
  policy : s.replica.policy = .scripts scripts
  limited : s.replica.limit = limit
  known : ∀ id, ∀ w ∈ s.replica.knownVersions id, w.Scripted scripts home
  flight : ∀ f ∈ s.flights, f.pending.limit = limit ∧
    f.pending.plan = Resolution.plan (.scripts scripts) f.pending.conflict ∧
    ∀ m ∈ f.pending.conflict.members, m.Scripted scripts home
  recorded : ∀ id c, s.replica.registry.get? id = some c →
    ∃ f ∈ s.flights, f.pending.conflict.id = id ∧ c.members.Perm f.pending.conflict.members

variable {s : System} {limit : Span}

theorem fresh_attended (node : NodeId) :
    (fresh node (.scripts scripts) limit).Attended scripts home limit where
  policy := rfl
  limited := rfl
  known _ _ hw := absurd hw List.not_mem_nil
  flight _ hf := absurd hf List.not_mem_nil
  recorded _ c h := absurd h (Option.some_ne_none c).symm

namespace Attended

variable {r' : Replica}

/-- Nothing that is known changes, and only calls end that no conflict needs. -/
theorem keep (h : s.Attended scripts home limit) (hsetup : r'.setup = s.replica.setup)
    (hstore : r'.store = s.replica.store) (hregistry : r'.registry = s.replica.registry)
    {flights : List Flight} (hsub : flights ⊆ s.flights)
    (hstay : ∀ id c, s.replica.registry.get? id = some c → ∀ f ∈ s.flights,
      f.pending.conflict.id = id → c.members.Perm f.pending.conflict.members → f ∈ flights) :
    Attended scripts home limit ⟨r', flights⟩ where
  policy := (congrArg (fun x ↦ x.2.1) hsetup).trans h.policy
  limited := (congrArg (fun x ↦ x.2.2) hsetup).trans h.limited
  known id w hw := by
    have hknown : r'.knownVersions id = s.replica.knownVersions id :=
      Replica.knownVersions_congr (by rw [hstore]) (by rw [hregistry])
    exact h.known id w (hknown ▸ hw)
  flight f hf := h.flight f (hsub hf)
  recorded id c hc := by
    have hc : s.replica.registry.get? id = some c := hregistry ▸ hc
    obtain ⟨f, hf, hid, hperm⟩ := h.recorded id c hc
    exact ⟨f, hstay id c hc f hf hid hperm, hid, hperm⟩

/-- Nothing that is known changes, and no call ends. -/
theorem quiet (h : s.Attended scripts home limit) (hsetup : r'.setup = s.replica.setup)
    (hstore : r'.store = s.replica.store) (hregistry : r'.registry = s.replica.registry) :
    Attended scripts home limit ⟨r', s.flights⟩ :=
  h.keep hsetup hstore hregistry (List.Subset.refl _) fun _ _ _ _ hf _ _ ↦ hf

/-- A version takes the place of all that is known of its document, and only calls on that document
end. -/
theorem replace (h : s.Attended scripts home limit) (hsetup : r'.setup = s.replica.setup)
    {v : Version} (hv : v.Scripted scripts home) (hstore : s.replica.store.write v = .ok r'.store)
    (hregistry : r'.registry = s.replica.registry.clear v.id) {flights : List Flight}
    (hsub : flights ⊆ s.flights)
    (hstay : ∀ f ∈ s.flights, f.pending.conflict.id ≠ v.id → f ∈ flights) :
    Attended scripts home limit ⟨r', flights⟩ where
  policy := (congrArg (fun x ↦ x.2.1) hsetup).trans h.policy
  limited := (congrArg (fun x ↦ x.2.2) hsetup).trans h.limited
  known id w hw := by
    rw [Replica.knownVersions_of_replaced hstore hregistry] at hw
    split at hw
    · exact List.mem_singleton.1 hw ▸ hv
    · exact h.known id w hw
  flight f hf := h.flight f (hsub hf)
  recorded id c hc := by
    by_cases hid : id = v.id
    · rw [hregistry, hid, Registry.get?_clear_self] at hc
      simp at hc
    · rw [hregistry, Registry.get?_clear_ne _ hid] at hc
      obtain ⟨f, hf, hfid, hperm⟩ := h.recorded id c hc
      exact ⟨f, hstay f hf (hfid ▸ hid), hfid, hperm⟩

/-- A conflict is recorded, and the call that has recorded it holds it. -/
theorem wait (h : s.Attended scripts home limit) {on : Conditions} {c : Conflict} (hc : c.Sound)
    (hmembers : ∀ m ∈ c.members, m.Scripted scripts home) {document : String}
    {x : Option Version} {r : Replica} (hsetup : r.setup = s.replica.setup)
    (hstore : r.store = s.replica.store) (hregistry : r.registry = s.replica.registry) :
    (s.begin document x (r.settle on c)).1.Attended scripts home limit := by
  have hpolicy : r.policy = .scripts scripts :=
    (congrArg (fun x ↦ x.2.1) hsetup).trans h.policy
  have hlimit : r.limit = limit := (congrArg (fun x ↦ x.2.2) hsetup).trans h.limited
  obtain ⟨r', hsettle, hsetup', hstore', -, hrecord⟩ :=
    Replica.settle_of_scripts on hc (by rw [hpolicy]; rfl)
  rw [hsettle, hpolicy, hlimit]
  have hget := Registry.get?_of_record_self hc hrecord
  refine ⟨(congrArg (fun x ↦ x.2.1) hsetup').trans hpolicy,
    (congrArg (fun x ↦ x.2.2) hsetup').trans hlimit, fun id w hw ↦ ?_, fun f hf ↦ ?_,
    fun id d hd ↦ ?_⟩
  · have hw : w ∈ r'.knownVersions id := hw
    by_cases hid : id = c.id
    · subst hid
      rw [Replica.knownVersions_of_recorded hget] at hw
      exact hmembers w hw
    · have hknown : r'.knownVersions id = s.replica.knownVersions id :=
        Replica.knownVersions_congr (by rw [hstore', hstore])
          ((Registry.get?_of_record_ne hc hrecord hid).trans (by rw [hregistry]))
      exact h.known id w (hknown ▸ hw)
  · rcases List.mem_append.1 hf with hf | hf
    · exact h.flight f hf
    · obtain rfl := List.mem_singleton.1 hf
      exact ⟨rfl, rfl, hmembers⟩
  · by_cases hid : id = c.id
    · subst hid
      obtain rfl := Option.some.inj (hget.symm.trans hd)
      exact ⟨_, List.mem_append_right _ (List.mem_singleton_self _), rfl, .refl _⟩
    · have hd : s.replica.registry.get? id = some d := by
        rw [← hregistry, ← Registry.get?_of_record_ne hc hrecord hid]
        exact hd
      obtain ⟨f, hf, hfid, hperm⟩ := h.recorded id d hd
      exact ⟨f, List.mem_append_left _ hf, hfid, hperm⟩

end Attended

/-! ## Every action keeps it -/

theorem process_attended (hs : s.Valid) (h : s.Attended scripts home limit) (now : Timestamp)
    {v : Version} (hv : v.check = .ok ()) (hscripted : v.Scripted scripts home)
    (document : String) (x : Option Version) :
    (s.begin document x ((s.replica.tick .received).process ⟨now, .none⟩ v)).1.Attended
      scripts home limit := by
  have hreceived : (s.replica.tick .received).Consistent := hs.consistent.congr rfl rfl
  have processes := Replica.process_processes ⟨now, .none⟩ hreceived hv
  generalize (s.replica.tick .received).process ⟨now, .none⟩ v = out at processes
  cases processes with
  | rejected reason covered =>
    have quiet : Attended scripts home limit
        ⟨(s.replica.tick .received).tick .rejected, s.flights⟩ := h.quiet rfl rfl rfl
    exact quiet
  | accepted advance setup =>
    cases advance with
    | replace _ check above store registry =>
      exact h.replace setup hscripted store registry (List.Subset.refl _) fun f hf _ ↦ hf
  | conflict sound new nonempty =>
    refine h.wait sound (fun m hm ↦ ?_) rfl rfl rfl
    rcases List.mem_append.1 hm with hm | hm
    · exact h.known v.id m (Version.mem_remaining.1 hm).1
    · exact List.mem_singleton.1 hm ▸ hscripted
  | failed e fault => simp [StoreFaults.none] at fault

theorem mem_eraseIdx_of_ne {fs : List Flight} {i : ℕ} {f g : Flight} (hf : fs[i]? = some f)
    (hg : g ∈ fs) (hne : g ≠ f) : g ∈ fs.eraseIdx i := by
  obtain ⟨j, hj⟩ := List.getElem?_of_mem hg
  refine List.mem_eraseIdx_iff_getElem?.2 ⟨j, ?_, hj⟩
  rintro rfl
  exact hne (Option.some.inj (hj.symm.trans hf))

/-- A call that goes on resolves the conflict that it holds, or else the recorded conflict has
changed, and some other call holds what it is now. -/
theorem resume_attended (hs : s.Valid) (h : s.Attended scripts home limit) (now : Timestamp)
    (i : ℕ) {elapsed : Span} {answer : Script.Answer} (inTime : elapsed.nanos ≤ limit.nanos)
    (decided : answer ≠ .noResult) :
    (s.step ⟨now, .none⟩ (.resume i ⟨elapsed, .ok answer⟩)).1.Attended scripts home limit := by
  cases hf : s.flights[i]? with
  | none =>
    rw [step, hf]
    exact h
  | some f =>
    have hmem : f ∈ s.flights := List.mem_of_getElem? hf
    obtain ⟨hlimit, hplan, hmembers⟩ := h.flight f hmem
    have hsound := (hs.flight f hmem).sound.conflict
    obtain ⟨request, hask, hcollection, hscript⟩ := Conflict.plan_of_scripted hsound hmembers
    obtain ⟨resolution, time, hresult, -, hstep⟩ :=
      resume_eq ⟨now, .none⟩ ⟨elapsed, .ok answer⟩ hf
    have hwithin : Script.Run.within ⟨elapsed, .ok answer⟩ f.pending.limit request.script =
        .ok answer := if_neg (Nat.not_lt.2 (hlimit ▸ inTime))
    obtain ⟨v, hv, hid, hvcollection⟩ :=
      Resolution.ofResult_of_decided f.pending.conflict request decided
    have hscripted : v.Scripted scripts home := by
      rw [Version.Scripted, hid, hvcollection, hcollection]
      exact ⟨rfl, hscript⟩
    rw [hresult request (hplan.trans hask), hwithin, hv] at hstep
    have commits := s.replica.commit_commits ⟨now, .none⟩ hs.consistent hsound (.resolved v) time
    rw [hstep]
    generalize s.replica.commit ⟨now, .none⟩ f.pending.conflict (.resolved v) time = out at commits
    cases commits with
    | resolved _ current recorded same setup store registry =>
      refine h.replace setup hscripted store (hid ▸ registry) List.eraseIdx_subset
        fun g hg hgid ↦ ?_
      refine mem_eraseIdx_of_ne hf hg ?_
      rintro rfl
      exact hgid hid.symm
    | failed _ e current recorded same fault store => exact absurd rfl fault
    | superseded _ changed setup store registry =>
      refine h.keep setup store registry List.eraseIdx_subset fun id c hc g hg hgid hperm ↦ ?_
      refine mem_eraseIdx_of_ne hf hg ?_
      rintro rfl
      exact changed c (hgid ▸ hc) hperm

theorem step_attended (hs : s.Valid) (h : s.Attended scripts home limit)
    {step : Conditions × Action} (hstep : Cooperates scripts home limit step) :
    (s.step step.1 step.2).1.Attended scripts home limit := by
  have malformed : ∀ reason, Attended scripts home limit
      ⟨(s.replica.malformed reason).1, s.flights⟩ := fun _ ↦ h.quiet rfl rfl rfl
  cases hstep with
  | receive now v scripted =>
    simp only [System.step, Replica.receive]
    cases hv : v.check with
    | error e => exact malformed _
    | ok => exact process_attended hs h now hv (scripted hv) v.id (some v)
  | deliver now d scripted =>
    cases d with
    | error unreadable => exact malformed unreadable.reason
    | ok raw =>
      simp only [System.step, Replica.receiveDelivery, Replica.receiveWire]
      cases hv : Version.ofWire raw with
      | error e => exact malformed _
      | ok v =>
        obtain ⟨hcheck, -⟩ := Version.check_of_ofWire hv
        exact process_attended hs h now hcheck (scripted raw v rfl hv) raw.id _
  | write now id payload script =>
    have writes := Replica.write_writes ⟨now, .none⟩ s.replica id (home id) payload
    have hsetup := Replica.setup_write ⟨now, .none⟩ s.replica id (home id) payload
    have hcollection : ∀ v,
        (s.replica.write ⟨now, .none⟩ id (home id) payload).2 = .ok v → v.collection = home id :=
      fun v ↦ Replica.collection_of_write
    rw [System.step]
    generalize s.replica.write ⟨now, .none⟩ id (home id) payload = out at writes hsetup hcollection
    cases writes with
    | failed expected => exact h
    | written base v advance hid =>
      subst hid
      cases advance with
      | replace _ check above store registry =>
        exact h.replace hsetup ⟨hcollection v rfl, script⟩ store registry (List.Subset.refl _)
          fun f hf _ ↦ hf
  | resolve now id =>
    simp only [System.step, Replica.resolvePending]
    cases hc : s.replica.registry.get? id with
    | none => exact h
    | some c =>
      obtain ⟨-, hsound, -⟩ := hs.consistent.recorded id c hc
      refine h.wait hsound (fun m hm ↦ h.known id m ?_) rfl rfl rfl
      rwa [Replica.knownVersions_of_recorded hc]
  | resume now i elapsed answer inTime decided =>
    exact resume_attended hs h now i inTime decided

theorem run_attended (hs : s.Valid) (h : s.Attended scripts home limit)
    {steps : List (Conditions × Action)}
    (hsteps : ∀ step ∈ steps, Cooperates scripts home limit step) :
    (s.run steps).Attended scripts home limit := by
  induction steps generalizing s with
  | nil => exact h
  | cons step steps ih =>
    rw [List.forall_mem_cons] at hsteps
    exact ih (step_moves hs step.1 step.2).valid (step_attended hs h hsteps.1) hsteps.2

/-- Where every script decides in time and the store does not fail, each recorded conflict has the
members of the conflict that some call in flight holds. So no conflict is open where no call is in
flight. -/
theorem conflicts_attended (node : NodeId) (limit : Span) (scripts : Dict String String)
    (home : String → String) (steps : List (Conditions × Action))
    (h : ∀ step ∈ steps, Cooperates scripts home limit step) :
    let s := (fresh node (.scripts scripts) limit).run steps
    (∀ id c, s.replica.registry.get? id = some c →
      ∃ f ∈ s.flights, f.pending.conflict.id = id ∧ c.members.Perm f.pending.conflict.members) ∧
    (s.flights = [] → ∀ id, s.replica.registry.get? id = none) := by
  intro s
  have attended : s.Attended scripts home limit :=
    run_attended (fresh_valid node _ limit) (fresh_attended node) h
  refine ⟨attended.recorded, fun hflights id ↦ ?_⟩
  by_contra hne
  obtain ⟨c, hc⟩ := Option.ne_none_iff_exists'.1 hne
  obtain ⟨f, hf, -⟩ := attended.recorded id c hc
  simp [hflights] at hf

/-- Two concurrent versions of a document arrive, and the script that is asked about them
answers. -/
def scriptedRun : List (Conditions × Action) :=
  [(⟨7, .none⟩, .receive (.document "doc" "notes" [1] (.authored ⟨1⟩) 1)),
    (⟨8, .none⟩, .receive (.document "doc" "notes" [2] (.authored ⟨2⟩) 2)),
    (⟨9, .none⟩, .resume 0 ⟨.ofSeconds 1, .ok (.document [3])⟩)]

/-- While the script runs the conflict is recorded, and the call that asked it is in flight. After
its answer nothing is open. -/
theorem conflicts_attended_scriptedRun :
    let scripts : Dict String String := .ofList [("notes", "merge")]
    let start := fresh ⟨3⟩ (.scripts scripts) Replica.defaultLimit
    (∀ step ∈ scriptedRun, Cooperates scripts (fun _ ↦ "notes") Replica.defaultLimit step) ∧
    ((start.run (scriptedRun.take 2)).replica.registry.get? "doc").isSome ∧
    (∀ id c, (start.run (scriptedRun.take 2)).replica.registry.get? id = some c →
      ∃ f ∈ (start.run (scriptedRun.take 2)).flights,
        f.pending.conflict.id = id ∧ c.members.Perm f.pending.conflict.members) ∧
    ∀ id, (start.run scriptedRun).replica.registry.get? id = none := by
  intro scripts start
  have hsteps :
      ∀ step ∈ scriptedRun, Cooperates scripts (fun _ ↦ "notes") Replica.defaultLimit step := by
    rw [scriptedRun, List.forall_mem_cons, List.forall_mem_cons, List.forall_mem_cons]
    exact ⟨.receive _ _ fun _ ↦ ⟨rfl, rfl⟩, .receive _ _ fun _ ↦ ⟨rfl, rfl⟩,
      .resume _ _ _ _ (by decide) (by decide), by simp⟩
  refine ⟨hsteps, rfl, ?_, ?_⟩
  · exact (conflicts_attended ⟨3⟩ Replica.defaultLimit scripts (fun _ ↦ "notes")
      (scriptedRun.take 2) fun step hstep ↦ hsteps step (List.mem_of_mem_take hstep)).1
  · exact (conflicts_attended ⟨3⟩ Replica.defaultLimit scripts (fun _ ↦ "notes") scriptedRun
      hsteps).2 rfl

end System

end CausalReplica
