import CausalReplica.Proofs.Overview
import CausalReplica.Proofs.Processing

/-!
# What bad slots leave behind

The slots of a batch are processed one after the other, each on the state that the slots before it
have left, and several of them may bring versions of the same document. A slot that cannot be
processed, a version that brings nothing new and, where no script is run, a version whose call fails
leave the state as it was but for the tally. So nothing that comes after them can tell whether they
were there.

Two runs are compared, one on a whole batch and one without such slots. Their states are not equal:
the tallies differ, and so do the times of the last attempts, since the clock may show anything in
either run. What holds throughout is that the two replicas resemble each other in all that a step
looks at. A slot of both runs is answered alike and preserves this, and so does a slot of one run
only.
-/

namespace CausalReplica

/-! ## Times of attempts -/

def Attempt.untimed : Attempt → Attempt
  | .resolved document tombstone _ => .resolved document tombstone 0
  | .unresolved document reason _ => .unresolved document reason 0

/-- The state of a collection without the time of its last attempt. -/
def CollectionStatus.untimed (s : CollectionStatus) : CollectionStatus :=
  { s with last := s.last.map Attempt.untimed }

def Overview.untimed (o : Overview) : Overview :=
  { o with rows := o.rows.map CollectionStatus.untimed }

namespace History

/-- The last attempts are the same up to their times. -/
def Resembles (g h : History) : Prop := ∀ name,
  (g.last.find? name).map Attempt.untimed = (h.last.find? name).map Attempt.untimed

variable {g h : History}

theorem Resembles.record (hgh : g.Resembles h) {name : String} {a b : Attempt}
    (hab : a.untimed = b.untimed) : (g.record name a).Resembles (h.record name b) := by
  intro other
  rw [History.record, History.record]
  by_cases hname : other = name
  · rw [hname, Dict.find?_insert_self, Dict.find?_insert_self, Option.map_some, Option.map_some,
      hab]
  · rw [Dict.find?_insert_ne _ hname, Dict.find?_insert_ne _ hname, hgh]

theorem Resembles.mem_keys_iff (hgh : g.Resembles h) {name : String} :
    name ∈ g.last.keys ↔ name ∈ h.last.keys := by
  rw [← not_iff_not, ← Dict.find?_eq_none_iff, ← Dict.find?_eq_none_iff,
    ← Option.map_eq_none_iff (f := Attempt.untimed), hgh, Option.map_eq_none_iff]

theorem Resembles.overview (hgh : g.Resembles h) (conflicts : List Conflict) :
    (g.overview conflicts).untimed = (h.overview conflicts).untimed := by
  have hnames : g.names conflicts = h.names conflicts := by
    rw [names_eq, names_eq]
    refine (g.sortedLT_rows conflicts).eq_of_mem_iff (h.sortedLT_rows conflicts) fun name ↦ ?_
    rw [List.mem_map, List.mem_map, exists_row_iff, exists_row_iff, hgh.mem_keys_iff]
  rw [overview_eq_overviewByName, overview_eq_overviewByName]
  simp only [Overview.untimed, overviewByName, hnames, List.map_map]
  refine congrArg _ (List.map_congr_left fun name _ ↦ ?_)
  simp only [Function.comp_apply, CollectionStatus.untimed, hgh name]

end History

namespace Outcome

/-- What became of a slot whose call ended in this way. -/
def ofResult : Except ReplicaError Outcome → Outcome
  | .ok outcome => outcome
  | .error e => .failed e.message

/-- Nothing was done for the version but counting it. A call that fails under a policy with scripts
may have recorded a conflict. -/
def idle (p : Policy) : Outcome → Bool
  | .malformed _ => true
  | .rejected _ => true
  | .failed _ => !p.usesScripts
  | _ => false

end Outcome

namespace Replica

variable {a b r r' : Replica} {on on' : Conditions} {c : Conflict} {p : Policy}

/-! ## Replicas that resemble each other -/

/-- The replicas agree in all but the tally and the times of the last attempts. -/
structure Resembles (a b : Replica) : Prop where
  setup : b.setup = a.setup
  store : b.store = a.store
  registry : b.registry = a.registry
  history : a.history.Resembles b.history

/-- The same answer, with replicas that resemble each other. -/
structure ResembleOut {α : Type} (x y : Replica × α) : Prop where
  answer : y.2 = x.2
  state : x.1.Resembles y.1

namespace Resembles

theorem refl (r : Replica) : r.Resembles r := ⟨rfl, rfl, rfl, fun _ ↦ rfl⟩

theorem symm (h : a.Resembles b) : b.Resembles a :=
  ⟨h.setup.symm, h.store.symm, h.registry.symm, fun name ↦ (h.history name).symm⟩

theorem trans (h : a.Resembles b) (h' : b.Resembles r) : a.Resembles r :=
  ⟨h'.setup.trans h.setup, h'.store.trans h.store, h'.registry.trans h.registry,
    fun name ↦ (h.history name).trans (h'.history name)⟩

theorem policy (h : a.Resembles b) : b.policy = a.policy := policy_of_setup h.setup

theorem of_tally (r : Replica) (t : Tally) : r.Resembles { r with tally := t } :=
  ⟨rfl, rfl, rfl, fun _ ↦ rfl⟩

theorem tally (h : a.Resembles b) (t t' : Tally) :
    Resembles { a with tally := t } { b with tally := t' } :=
  ⟨h.setup, h.store, h.registry, h.history⟩

theorem overview (h : a.Resembles b) : a.overview.untimed = b.overview.untimed := by
  rw [Replica.overview, Replica.overview, h.registry]
  exact h.history.overview _

/-! ## One step of both -/

section Steps

variable (h : a.Resembles b) (hon : on'.faults = on.faults)
include h hon

theorem known (id : String) : b.known on' id = a.known on id := by
  rw [Replica.known, Replica.known, h.registry, h.store, hon]

theorem stored (v : Version) :
    (∃ e, a.stored on v = .error e ∧ b.stored on' v = .error e) ∨
    ∃ store, a.stored on v = .ok { a with store := store } ∧
      b.stored on' v = .ok { b with store := store } := by
  rw [Replica.stored, Replica.stored, hon, h.store]
  cases on.faults.guardWrite v (a.store.write v) with
  | error e => exact .inl ⟨_, rfl, rfl⟩
  | ok store => exact .inr ⟨store, rfl, rfl⟩

theorem finish (c : Conflict) (resolution : Resolution) :
    ResembleOut (a.finish on c resolution) (b.finish on' c resolution) := by
  cases resolution with
  | resolved v =>
    rcases h.stored hon v with ⟨e, ha, hb⟩ | ⟨store, ha, hb⟩
    · simp only [Replica.finish, ha, hb]
      exact ⟨rfl, h⟩
    · simp only [Replica.finish, ha, hb]
      exact ⟨rfl, h.setup, rfl, congrArg (Registry.clear · c.id) h.registry, h.history.record rfl⟩
  | unresolved reason =>
    rw [Replica.finish, Replica.finish, h.registry]
    cases a.registry.record c with
    | error fault => exact ⟨rfl, h⟩
    | ok registry =>
      dsimp only
      split
      · exact ⟨rfl, h.setup, h.store, rfl, h.history.record rfl⟩
      · exact ⟨rfl, h.setup, h.store, rfl, h.history.record rfl⟩

theorem settle (c : Conflict) : ResembleOut (a.settle on c) (b.settle on' c) := by
  have hnode : b.node = a.node := congrArg Prod.fst h.setup
  have hlimit : b.limit = a.limit := congrArg (fun s ↦ s.2.2) h.setup
  rw [Replica.settle, Replica.settle, h.policy, h.registry, hlimit]
  split
  · rename_i resolution _ _
    have hfinish := finish (h.tally (a.timed ⟨0⟩).tally (b.timed ⟨0⟩).tally) hon c resolution
    exact ⟨congrArg Progress.done hfinish.answer, hfinish.state⟩
  · cases a.registry.record c with
    | error fault => exact ⟨rfl, h⟩
    | ok registry =>
      have hsetup : (b.node, a.policy, a.limit) = a.setup := by rw [hnode, Replica.setup]
      exact ⟨rfl, hsetup, h.store, rfl, h.history⟩

theorem process (v : Version) : ResembleOut (a.process on v) (b.process on' v) := by
  have hknown := h.known hon v.id
  cases hk : a.known on v.id with
  | error e =>
    rw [process_of_error hk, process_of_error (hknown.trans hk)]
    exact ⟨rfl, h⟩
  | ok known =>
    rw [process_of_known hk, process_of_known (hknown.trans hk)]
    cases Verdict.judge v known with
    | accept winner =>
      rcases h.stored hon winner with ⟨e, ha, hb⟩ | ⟨store, ha, hb⟩
      · simp only [follow, ha, hb]
        exact ⟨rfl, h⟩
      · simp only [follow, ha, hb]
        exact ⟨rfl, h.setup, rfl, congrArg (Registry.clear · v.id) h.registry, h.history⟩
    | reject reason => exact ⟨rfl, h.tally _ _⟩
    | conflict c => exact settle (h.tally _ _) hon c

theorem receiveDelivery (d : Delivery) :
    ResembleOut (a.receiveDelivery on d) (b.receiveDelivery on' d) := by
  cases d with
  | error unreadable => exact ⟨rfl, h.tally _ _⟩
  | ok raw =>
    rw [Replica.receiveDelivery, Replica.receiveDelivery, Replica.receiveWire, Replica.receiveWire]
    cases Version.ofWire raw with
    | error e => exact ⟨rfl, h.tally _ _⟩
    | ok v => exact process (h.tally _ _) hon v

theorem commit (c : Conflict) (resolution : Resolution) (time : Millis) :
    ResembleOut (a.commit on c resolution time) (b.commit on' c resolution time) := by
  have htimed := h.tally (a.timed time).tally (b.timed time).tally
  have hregistry : (b.timed time).registry = (a.timed time).registry := h.registry
  have hcheck : (b.timed time).stillRecorded c = (a.timed time).stillRecorded c := by
    rw [stillRecorded, stillRecorded, hregistry]
  rw [Replica.commit, Replica.commit, hcheck]
  split
  · exact finish htimed hon c resolution
  · exact ⟨rfl, h.tally _ _⟩

end Steps

end Resembles

/-! ## One step of one of them -/

/-- What a step does that ends a call with an idle outcome shows in the tally only. A call does not
wait unless the policy has scripts. -/
inductive Isolates (r : Replica) : Replica × Progress → Prop
  | done {r' : Replica} {result : Except ReplicaError Outcome} (setup : r'.setup = r.setup)
    (idle : (Outcome.ofResult result).idle r.policy = true → r.Resembles r') :
    Isolates r (r', .done result)
  | waiting {r' : Replica} {p : Pending} (setup : r'.setup = r.setup)
    (scripts : r.policy.usesScripts = true) : Isolates r (r', .waiting p)

theorem Isolates.of_resembles {out : Replica × Progress} (h : r.Resembles r')
    (isolates : r'.Isolates out) : r.Isolates out := by
  cases isolates with
  | done setup idle =>
    rw [h.policy] at idle
    exact .done (setup.trans h.setup) fun hidle ↦ h.trans (idle hidle)
  | waiting setup scripts => exact .waiting (setup.trans h.setup) (h.policy ▸ scripts)

theorem Isolates.tick {out : Replica × Progress} (c : Counter) (h : (r.tick c).Isolates out) :
    r.Isolates out := h.of_resembles (.of_tally r (r.tick c).tally)

/-- A conflict that is finished is resolved or recorded, or its resolution cannot be stored. -/
theorem finish_idle {resolution : Resolution}
    (h : (Outcome.ofResult (finish on r c resolution).2).idle p = true) :
    (finish on r c resolution).1 = r := by
  cases resolution with
  | resolved v =>
    rw [finish] at h ⊢
    cases hs : r.stored on v with
    | error e => rfl
    | ok r' =>
      rw [hs] at h
      cases h
  | unresolved reason =>
    rw [finish] at h ⊢
    cases hrecord : r.registry.record c with
    | error fault => rfl
    | ok registry =>
      rw [hrecord] at h
      cases h

theorem settle_isolates (on : Conditions) (r : Replica) (c : Conflict) :
    r.Isolates (r.settle on c) := by
  cases hscripts : r.policy.usesScripts with
  | true =>
    rw [settle, hscripts]
    cases r.registry.record c with
    | error fault => exact .done rfl fun _ ↦ .refl r
    | ok registry => exact .waiting rfl hscripts
  | false =>
    obtain ⟨resolution, -, hsettle⟩ := settle_of_plain on c hscripts
    have hsetup := setup_finish on (r.timed ⟨0⟩) c resolution
    rw [hsettle]
    refine .done hsetup fun hidle ↦ ?_
    rw [finish_idle hidle]
    exact .of_tally r _

theorem process_isolates (on : Conditions) (r : Replica) (v : Version) :
    r.Isolates (r.process on v) := by
  cases hk : r.known on v.id with
  | error e =>
    rw [process_of_error hk]
    exact .done rfl fun _ ↦ .refl r
  | ok known =>
    rw [process_of_known hk]
    cases Verdict.judge v known with
    | accept winner =>
      rw [follow]
      cases hs : r.stored on winner with
      | error e => exact .done rfl fun _ ↦ .refl r
      | ok r' =>
        have hsetup := setup_of_stored hs
        refine .done hsetup fun hidle ↦ ?_
        cases hidle
    | reject reason => exact .done rfl fun _ ↦ .of_tally r _
    | conflict c => exact (settle_isolates on _ c).tick

theorem malformed_isolates (r : Replica) (reason : String) :
    r.Isolates ((r.malformed reason).1, .done (.ok (r.malformed reason).2)) :=
  .done rfl fun _ ↦ .of_tally r _

theorem receiveDelivery_isolates (on : Conditions) (r : Replica) (d : Delivery) :
    r.Isolates (r.receiveDelivery on d) := by
  cases d with
  | error unreadable => exact r.malformed_isolates unreadable.reason
  | ok raw =>
    rw [receiveDelivery, receiveWire]
    cases Version.ofWire raw with
    | error e => exact r.malformed_isolates e.message
    | ok v => exact (process_isolates on _ v).tick

theorem setup_commit (on : Conditions) (r : Replica) (c : Conflict) (resolution : Resolution)
    (time : Millis) : (r.commit on c resolution time).1.setup = r.setup := by
  rw [commit]
  split
  · exact setup_finish on (r.timed time) c resolution
  · rfl

theorem idle_commit {resolution : Resolution} {time : Millis} (hp : p.usesScripts = true) :
    (Outcome.ofResult (r.commit on c resolution time).2).idle p = false := by
  have hfailed : ∀ error, Outcome.idle p (.failed error) = false := fun error ↦ by
    rw [Outcome.idle, hp, Bool.not_true]
  rw [commit]
  split
  · cases resolution with
    | resolved v =>
      rw [finish]
      cases (r.timed time).stored on v with
      | error e => exact hfailed _
      | ok r' => rfl
    | unresolved reason =>
      rw [finish]
      cases (r.timed time).registry.record c with
      | error fault => exact hfailed _
      | ok registry => rfl
  · rfl

end Replica

/-! ## Runs by a clock -/

/-- The host of calls that do not overlap, under a clock: the steps are counted, and each meets the
time that the clock shows at its number. The faults of the store depend on the document only, and a
script's run on its request only. -/
def Host.clocked (faults : StoreFaults) (clock : ℕ → Timestamp)
    (script : Script.Request → Script.Run) : Host (StateM (ℕ × Replica)) where
  atomic step := fun (n, r) ↦ let (r, a) := step ⟨clock n, faults⟩ r; (a, n + 1, r)
  run request := pure (script request)

namespace Replica

section Runs

variable {a b r : Replica} {faults : StoreFaults} {clock : ℕ → Timestamp}
  {script : Script.Request → Script.Run} {n : ℕ}

theorem run_atomic_clocked {α : Type} (step : Conditions → Replica → Replica × α) (n : ℕ)
    (r : Replica) : ((Host.clocked faults clock script).atomic step).run (n, r) =
      ((step ⟨clock n, faults⟩ r).2, n + 1, (step ⟨clock n, faults⟩ r).1) := rfl

/-- What a call that waits goes on with depends on neither the clock nor the state. -/
theorem exists_run_resolve_clocked (faults : StoreFaults) (script : Script.Request → Script.Run)
    (p : Pending) : ∃ found, ∀ (clock : ℕ → Timestamp) (s : ℕ × Replica),
      ((Host.clocked faults clock script).resolve p).run s = (found, s) := by
  obtain ⟨c, plan, limit⟩ := p
  cases plan with
  | settled resolution => exact ⟨(resolution, ⟨0⟩), fun _ _ ↦ rfl⟩
  | ask request =>
    exact ⟨(Resolution.ofResult c request ((script request).within limit request.script),
      Host.millis (script request).elapsed), fun _ _ ↦ rfl⟩

theorem exists_run_complete_clocked (faults : StoreFaults) (script : Script.Request → Script.Run)
    (p : Pending) : ∃ resolution time, ∀ (clock : ℕ → Timestamp) (n : ℕ) (r : Replica),
      ((Host.clocked faults clock script).complete (.waiting p)).run (n, r) =
        ((r.commit ⟨clock n, faults⟩ p.conflict resolution time).2, n + 1,
          (r.commit ⟨clock n, faults⟩ p.conflict resolution time).1) := by
  obtain ⟨⟨resolution, time⟩, hresolve⟩ := exists_run_resolve_clocked faults script p
  refine ⟨resolution, time, fun clock n r ↦ ?_⟩
  rw [Host.complete, StateT.run_bind, hresolve]
  exact run_atomic_clocked _ n r

theorem run_receiveDelivery_clocked {d : Delivery} {first : Replica × Progress}
    {result : Except ReplicaError Outcome} {s : ℕ × Replica}
    (hfirst : r.receiveDelivery ⟨clock n, faults⟩ d = first)
    (hrest : ((Host.clocked faults clock script).complete first.2).run (n + 1, first.1) =
      (result, s)) :
    ((Host.clocked faults clock script).receiveDelivery d).run (n, r) =
      ((Host.slotId d, .ofResult result), s) := by
  rw [Host.receiveDelivery, StateT.run_bind, run_atomic_clocked, hfirst]
  change StateT.run ((Host.clocked faults clock script).complete first.2 >>= _) (n + 1, first.1) = _
  rw [StateT.run_bind, hrest]
  cases result with
  | ok outcome => rfl
  | error e => rfl

/-! ## One slot -/

theorem Resembles.run_receiveDelivery (h : a.Resembles b) (faults : StoreFaults)
    (clock clock' : ℕ → Timestamp) (script : Script.Request → Script.Run) (n n' : ℕ)
    (d : Delivery) : ∃ answer m a' m' b',
      ((Host.clocked faults clock script).receiveDelivery d).run (n, a) = (answer, m, a') ∧
      ((Host.clocked faults clock' script).receiveDelivery d).run (n', b) = (answer, m', b') ∧
      a'.Resembles b' := by
  have hfaults : ∀ now now' : Timestamp,
      (Conditions.mk now' faults).faults = (Conditions.mk now faults).faults := fun _ _ ↦ rfl
  obtain ⟨hanswer, hstate⟩ := h.receiveDelivery (hfaults (clock n) (clock' n')) d
  generalize hfirst : a.receiveDelivery ⟨clock n, faults⟩ d = first at hanswer hstate
  generalize hfirst' : b.receiveDelivery ⟨clock' n', faults⟩ d = first' at hanswer hstate
  obtain ⟨a₁, progress⟩ := first
  obtain ⟨b₁, progress'⟩ := first'
  obtain rfl : progress = progress' := hanswer.symm
  -- Both calls have ended, or both wait with the same conflict.
  cases progress with
  | done result =>
    exact ⟨_, _, a₁, _, b₁, run_receiveDelivery_clocked hfirst rfl,
      run_receiveDelivery_clocked hfirst' rfl, hstate⟩
  | waiting p =>
    obtain ⟨resolution, time, hcomplete⟩ := exists_run_complete_clocked faults script p
    obtain ⟨hresult, hstate⟩ := Resembles.commit hstate
      (hfaults (clock (n + 1)) (clock' (n' + 1))) p.conflict resolution time
    have hrun := run_receiveDelivery_clocked hfirst (hcomplete clock _ _)
    have hrun' := run_receiveDelivery_clocked hfirst' (hcomplete clock' _ _)
    rw [hresult] at hrun'
    exact ⟨_, _, _, _, _, hrun, hrun', hstate⟩

theorem run_receiveDelivery_isolates (faults : StoreFaults) (clock : ℕ → Timestamp)
    (script : Script.Request → Script.Run) (n : ℕ) (r : Replica) (d : Delivery) :
    ∃ outcome m r',
      ((Host.clocked faults clock script).receiveDelivery d).run (n, r) =
        ((Host.slotId d, outcome), m, r') ∧
      r'.setup = r.setup ∧ (outcome.idle r.policy = true → r.Resembles r') := by
  have isolates := receiveDelivery_isolates ⟨clock n, faults⟩ r d
  generalize hfirst : r.receiveDelivery ⟨clock n, faults⟩ d = first at isolates
  cases isolates with
  | done setup idle =>
    exact ⟨_, _, _, run_receiveDelivery_clocked hfirst rfl, setup, idle⟩
  | @waiting r' p setup scripts =>
    obtain ⟨resolution, time, hcomplete⟩ := exists_run_complete_clocked faults script p
    refine ⟨_, _, _, run_receiveDelivery_clocked hfirst (hcomplete clock _ _),
      (setup_commit _ _ _ _ _).trans setup, fun hidle ↦ ?_⟩
    rw [idle_commit scripts] at hidle
    cases hidle

end Runs

end Replica

/-! ## Batches -/

/-- The list without the entries at the dropped positions. -/
def withoutAt {α : Type} (dropped : ℕ → Bool) : List α → List α
  | [] => []
  | a :: as =>
    let rest := withoutAt (fun i ↦ dropped (i + 1)) as
    if dropped 0 then rest else a :: rest

namespace Replica

section Runs

variable {a b : Replica} {p : Policy} {faults : StoreFaults} {clock : ℕ → Timestamp}
  {script : Script.Request → Script.Run}

theorem run_slots_cons {h : Host (StateM (ℕ × Replica))} {d : Delivery} {slots : List Delivery}
    {s s₁ s₂ : ℕ × Replica} {answer : String × Outcome} {answers : List (String × Outcome)}
    (hfirst : (h.receiveDelivery d).run s = (answer, s₁))
    (hrest : (slots.mapM h.receiveDelivery).run s₁ = (answers, s₂)) :
    ((d :: slots).mapM h.receiveDelivery).run s = (answer :: answers, s₂) := by
  rw [List.mapM_cons, StateT.run_bind, hfirst]
  change StateT.run (slots.mapM h.receiveDelivery >>= fun rest ↦ pure (answer :: rest)) s₁ = _
  rw [StateT.run_bind, hrest]
  rfl

theorem run_receiveAll {h : Host (StateM (ℕ × Replica))} {slots : List Delivery}
    {s s' : ℕ × Replica} {answers : List (String × Outcome)} (source : NodeId)
    (hslots : (slots.mapM h.receiveDelivery).run s = (answers, s')) :
    (h.receiveAll source slots).run s = (⟨source, answers⟩, s') := by
  rw [Host.receiveAll, StateT.run_bind, hslots]
  rfl

theorem exists_run_slots (faults : StoreFaults) (clock : ℕ → Timestamp)
    (script : Script.Request → Script.Run) (slots : List Delivery) (n : ℕ) (r : Replica) :
    ∃ answers n' r', (slots.mapM (Host.clocked faults clock script).receiveDelivery).run (n, r) =
      (answers, n', r') ∧ answers.map (·.1) = slots.map Host.slotId := by
  induction slots generalizing n r with
  | nil => exact ⟨[], n, r, rfl, rfl⟩
  | cons d slots ih =>
    obtain ⟨outcome, n₁, r₁, hfirst, -⟩ := run_receiveDelivery_isolates faults clock script n r d
    obtain ⟨answers, n₂, r₂, hrest, hids⟩ := ih n₁ r₁
    exact ⟨_, n₂, r₂, run_slots_cons hfirst hrest, congrArg (Host.slotId d :: ·) hids⟩

/-- The induction is over the whole batch. The run on what is left of it meets at each slot a
replica that resembles that of the run on the whole batch, and skips the slots that are dropped. -/
theorem run_slots_withoutAt (clock' : ℕ → Timestamp) (n' : ℕ) {slots : List Delivery}
    {dropped : ℕ → Bool} {n m : ℕ} {a' : Replica} {answers : List (String × Outcome)}
    (hp : a.policy = p) (h : a.Resembles b)
    (hrun : (slots.mapM (Host.clocked faults clock script).receiveDelivery).run (n, a) =
      (answers, m, a'))
    (hdropped : ∀ i answer, dropped i = true → answers[i]? = some answer →
      answer.2.idle p = true) :
    ∃ m' b', ((withoutAt dropped slots).mapM
      (Host.clocked faults clock' script).receiveDelivery).run (n', b) =
        (withoutAt dropped answers, m', b') ∧ a'.Resembles b' := by
  induction slots generalizing a b answers dropped n n' with
  | nil =>
    cases hrun
    exact ⟨n', b, rfl, h⟩
  | cons d slots ih =>
    obtain ⟨outcome, n₁, a₁, hfirst, hsetup, hidle⟩ :=
      run_receiveDelivery_isolates faults clock script n a d
    obtain ⟨answers₁, n₂, a₂, hrest, -⟩ := exists_run_slots faults clock script slots n₁ a₁
    have hp₁ : a₁.policy = p := (policy_of_setup hsetup).trans hp
    cases (run_slots_cons hfirst hrest).symm.trans hrun
    have hlater : ∀ i answer, dropped (i + 1) = true → answers₁[i]? = some answer →
        answer.2.idle p = true := fun i answer hi hanswer ↦ hdropped (i + 1) answer hi hanswer
    rw [withoutAt, withoutAt]
    cases hzero : dropped 0 with
    | true =>
      -- The other run does not move, and what the slot leaves still resembles its state.
      have hout : outcome.idle p = true := hdropped 0 _ hzero rfl
      exact ih n' hp₁ ((hidle (hp ▸ hout)).symm.trans h) hrest hlater
    | false =>
      obtain ⟨answer, _, _, m₁, b₁, hfirst', hfirst'', h₁⟩ :=
        h.run_receiveDelivery faults clock clock' script n n' d
      cases hfirst.symm.trans hfirst'
      obtain ⟨m', b', hrest', h'⟩ := ih m₁ hp₁ h₁ hrest hlater
      exact ⟨m', b', run_slots_cons hfirst'' hrest', h'⟩

/-- A batch isolates its bad slots. Whatever the state and the slots are, every slot has one
outcome, in its place and under its id. Slots that were malformed or rejected, or whose call failed
where no script is run, can be left out, any of them: the outcomes of the other slots are the same,
and so are the stored versions, the open conflicts and the overview but for the times in it. -/
theorem batch_isolates_bad_slots (faults : StoreFaults) (clock : ℕ → Timestamp)
    (script : Script.Request → Script.Run) (r : Replica) (source : NodeId)
    (slots : List Delivery) :
    let out := ((Host.clocked faults clock script).receiveAll source slots).run (0, r)
    out.1.source = source ∧ out.1.outcomes.map (·.1) = slots.map Host.slotId ∧
    ∀ (dropped : ℕ → Bool) (clock' : ℕ → Timestamp),
      (∀ i answer, dropped i = true → out.1.outcomes[i]? = some answer →
        answer.2.idle r.policy = true) →
      let out' :=
        ((Host.clocked faults clock' script).receiveAll source (withoutAt dropped slots)).run (0, r)
      out'.1 = ⟨source, withoutAt dropped out.1.outcomes⟩ ∧ out'.2.2.store = out.2.2.store ∧
      out'.2.2.registry = out.2.2.registry ∧
      out'.2.2.overview.untimed = out.2.2.overview.untimed := by
  intro out
  obtain ⟨answers, n, r', hrun, hids⟩ := exists_run_slots faults clock script slots 0 r
  have hout : out = (⟨source, answers⟩, n, r') := run_receiveAll source hrun
  rw [hout]
  refine ⟨rfl, hids, fun dropped clock' hdropped ↦ ?_⟩
  obtain ⟨n', r'', hrun', h⟩ :=
    run_slots_withoutAt clock' 0 rfl (Resembles.refl r) hrun hdropped
  rw [run_receiveAll source hrun']
  exact ⟨rfl, h.store, h.registry, h.overview.symm⟩

/-- A slot that cannot be read, a version that arrives twice, one of a document that cannot be
written, and a later version of the first document. -/
def troubledBatch : List Delivery :=
  let first : Version := .document "doc" "notes" [1] (.authored ⟨1⟩) 3
  let other : Version := .document "bad" "notes" [2] (.authored ⟨1⟩) 4
  let vector := (VersionVector.authored ⟨1⟩).merge (.authored ⟨2⟩)
  [.error ⟨"lost", "no version"⟩, .ok first.toWire, .ok first.toWire, .ok other.toWire,
    .ok (Version.document "doc" "notes" [3] vector 5).toWire]

/-- The two slots that are left are accepted as before, at other times. -/
theorem batch_isolates_bad_slots_troubledBatch :
    let r := fresh ⟨9⟩ .latest defaultLimit
    let host := fun clock ↦
      Host.clocked (.failing ["bad"] [] false) clock fun _ ↦ ⟨⟨0⟩, .ok .noResult⟩
    let dropped := fun i ↦ decide (i ∉ [1, 4])
    let out := ((host .ofNat).receiveAll ⟨1⟩ troubledBatch).run (0, r)
    let out' := ((host fun _ ↦ 100).receiveAll ⟨1⟩ (withoutAt dropped troubledBatch)).run (0, r)
    out.1.outcomes = [("lost", .malformed "no version"), ("doc", .accepted false),
      ("doc", .rejected .alreadyApplied),
      ("bad", .failed "Storage error: write of bad failed: disk full"), ("doc", .accepted false)] ∧
    out'.1.outcomes = [("doc", .accepted false), ("doc", .accepted false)] ∧
    out'.2.2.store = out.2.2.store ∧ out'.2.2.registry = out.2.2.registry := by
  intro r host dropped out out'
  have houtcomes : out.1.outcomes = [("lost", .malformed "no version"), ("doc", .accepted false),
      ("doc", .rejected .alreadyApplied),
      ("bad", .failed "Storage error: write of bad failed: disk full"),
      ("doc", .accepted false)] := by decide
  obtain ⟨-, -, hisolates⟩ := batch_isolates_bad_slots (.failing ["bad"] [] false) .ofNat
    (fun _ ↦ ⟨⟨0⟩, .ok .noResult⟩) r ⟨1⟩ troubledBatch
  have hdropped : ∀ i answer, dropped i = true → out.1.outcomes[i]? = some answer →
      answer.2.idle r.policy = true := by
    rw [houtcomes]
    intro i answer hi hanswer
    match i with
    | 0 | 2 | 3 => obtain rfl := Option.some.inj hanswer; rfl
    | 1 | 4 => cases hi
    | i + 5 => cases hanswer
  obtain ⟨hreport, hstore, hregistry, -⟩ := hisolates dropped (fun _ ↦ 100) hdropped
  have hleft : out'.1.outcomes = withoutAt dropped out.1.outcomes :=
    congrArg Report.outcomes hreport
  rw [houtcomes] at hleft
  exact ⟨houtcomes, hleft, hstore, hregistry⟩

end Runs

end Replica

end CausalReplica
