import CausalReplica.Proofs.Steps

/-!
# A replica with overlapping calls

The state of a system is a replica together with the calls that wait for a script. An action is one
atomic step of some call: the first step of a new call, or the second step of one that waits. Every
action meets its own time and its own faults, and a script may give any answer, so the runs of a
system are all the ways in which calls can overlap. A batch, or a sweep over all open conflicts, is
a sequence of such calls, and a call that never goes on has been dropped.

The invariant of all runs is that the replica is consistent and that every call that waits holds a
sound conflict whose members the replica knows.
-/

namespace CausalReplica

/-- A call that waits: the version that it brought, if it brought one, and what it is to resolve. -/
structure Flight where
  version : Option Version
  pending : Pending

/-- A replica, and the calls that wait for a script, the oldest first. -/
structure System where
  replica : Replica
  flights : List Flight

/-- One atomic step of some call. -/
inductive Action where
  /-- A version is processed. -/
  | receive (v : Version)
  /-- A slot of a batch is processed, or a version in its wire form. -/
  | deliver (d : Delivery)
  /-- A document is written, or deleted where there is no payload. -/
  | write (id collection : String) (payload : Option Bytes)
  /-- The open conflict of a document is resolved. -/
  | resolve (id : String)
  /-- The call at a position goes on with what its script gave, if it asked one. -/
  | resume (i : Nat) (run : Script.Run)
  | setPolicy (p : Policy)
  /-- The state is looked at. -/
  | look

/-- What comes of an action. -/
inductive Event where
  /-- A call on a document ends, with the version that it brought. -/
  | ended (document : String) (version : Option Version) (result : Except ReplicaError Outcome)
  | wrote (document : String) (result : Except ReplicaError Version)
  /-- A call waits for its second step. -/
  | waiting
  | idle

namespace Event

/-- The error of a call that failed. -/
def error? : Event → Option ReplicaError
  | .ended _ _ (.error e) => some e
  | .wrote _ (.error e) => some e
  | _ => none

/-- The version that a call has handled: it brought or wrote it, and did not fail. -/
def handled? : Event → Option Version
  | .ended _ version (.ok outcome) => if outcome.handled then version else none
  | .wrote _ (.ok v) => some v
  | _ => none

/-- The document whose stored version was written. -/
def target? : Event → Option String
  | .ended document _ (.ok outcome) => if outcome.changedStore then some document else none
  | .wrote document (.ok _) => some document
  | _ => none

end Event

namespace System

/-- A system whose replica knows no document, and in which no call waits. -/
def fresh (node : NodeId) (policy : Policy) (limit : Span) : System :=
  ⟨.fresh node policy limit, []⟩

/-- The system after the first step of a call. -/
def begin (s : System) (document : String) (x : Option Version) :
    Replica × Progress → System × Event
  | (r, .done result) => (⟨r, s.flights⟩, .ended document x result)
  | (r, .waiting p) => (⟨r, s.flights ++ [⟨x, p⟩]⟩, .waiting)

def step (s : System) (on : Conditions) : Action → System × Event
  | .receive v => s.begin v.id (some v) (s.replica.receive on v)
  | .deliver d =>
    s.begin (Host.slotId d) (d.toOption.bind fun raw ↦ (Version.ofWire raw).toOption)
      (s.replica.receiveDelivery on d)
  | .write id collection payload =>
    let (r, result) := s.replica.write on id collection payload
    (⟨r, s.flights⟩, .wrote id result)
  | .resolve id =>
    match s.replica.resolvePending on id with
    | (r, none) => (⟨r, s.flights⟩, .idle)
    | (r, some progress) => s.begin id none (r, progress)
  | .resume i run =>
    match s.flights[i]? with
    | none => (s, .idle)
    | some f =>
      let (result, r) :=
        ((Host.sequential on fun _ ↦ run).complete (.waiting f.pending)).run s.replica
      (⟨r, s.flights.eraseIdx i⟩, .ended f.pending.conflict.id f.version result)
  | .setPolicy p => (⟨s.replica.setPolicy p, s.flights⟩, .idle)
  | .look => (s, .idle)

/-- The system after a run, given by its actions and what each of them meets. -/
def run (s : System) : List (Conditions × Action) → System
  | [] => s
  | (on, a) :: rest => (s.step on a).1.run rest

/-- The version that an action wrote: what is stored under its document afterwards. -/
def written (out : System × Event) : Option Version :=
  out.2.target?.bind out.1.replica.store.get?

/-- The versions that a run wrote to the store, in order. -/
def writes (s : System) : List (Conditions × Action) → List Version
  | [] => []
  | (on, a) :: rest => (written (s.step on a)).toList ++ (s.step on a).1.writes rest

theorem run_append (s : System) (pre post : List (Conditions × Action)) :
    s.run (pre ++ post) = (s.run pre).run post := by
  induction pre generalizing s with
  | nil => rfl
  | cons step pre ih => exact ih _

/-! ## The invariant -/

/-- A call that waits holds a sound conflict of versions that the replica knows, and the version
that it brought is one of them. -/
structure FlightValid (r : Replica) (f : Flight) : Prop where
  sound : f.pending.Sound
  member : ∀ v, f.version = some v → v ∈ f.pending.conflict.members
  known : ∀ v ∈ f.pending.conflict.members, r.Knows v

/-- What holds of a system between its actions. -/
structure Valid (s : System) : Prop where
  consistent : s.replica.Consistent
  flight : ∀ f ∈ s.flights, FlightValid s.replica f

theorem fresh_valid (node : NodeId) (policy : Policy) (limit : Span) :
    (fresh node policy limit).Valid :=
  ⟨Replica.fresh_consistent node policy limit, fun _ hf ↦ absurd hf List.not_mem_nil⟩

theorem FlightValid.advance {r r' : Replica} {f : Flight} (h : FlightValid r f)
    {written : Option Version} (ha : r.Advance written r') : FlightValid r' f :=
  ⟨h.sound, h.member, fun v hv ↦ ha.knows (h.known v hv)⟩

/-- What is true of every action of a valid system. -/
structure Moves (on : Conditions) (s : System) (out : System × Event) : Prop where
  valid : out.1.Valid
  /-- The replica advances by what was written. -/
  advance : s.replica.Advance (written out) out.1.replica
  /-- A call fails with an error of its input or of the store. -/
  expected : ∀ e, out.2.error? = some e → e.Expected on
  /-- The replica knows what a call has handled. -/
  knows : ∀ v, out.2.handled? = some v → out.1.replica.Knows v

variable {on : Conditions} {s : System}

theorem valid_of_advance (hs : s.Valid) {r' : Replica} {written : Option Version}
    (h : s.replica.Advance written r') {flights : List Flight} (hf : flights ⊆ s.flights) :
    Valid ⟨r', flights⟩ :=
  ⟨h.consistent hs.consistent, fun f hmem ↦ (hs.flight f (hf hmem)).advance h⟩

/-- An action that ends a call moves the system, whichever calls still wait. -/
theorem moves_of_ends (hs : s.Valid) {document : String} {x : Option Version} {r' : Replica}
    {result : Except ReplicaError Outcome} (ends : s.replica.Ends on document r' result)
    (knows : ∀ o v, result = .ok o → o.handled = true → x = some v → r'.Knows v)
    {flights : List Flight} (hf : flights ⊆ s.flights) :
    Moves on s (⟨r', flights⟩, .ended document x result) := by
  have hknows : ∀ v, (Event.ended document x result).handled? = some v → r'.Knows v := by
    intro v hv
    match result with
    | .error e => simp [Event.handled?] at hv
    | .ok o =>
      simp only [Event.handled?, Option.ite_none_right_eq_some] at hv
      exact knows o v rfl hv.1 hv.2
  cases ends with
  | @written o v advance id changed =>
    have hwritten : written (⟨r', flights⟩, .ended document x (.ok o)) = some v := by
      simp only [written, Event.target?, changed, if_true, Option.bind_some]
      exact id ▸ advance.get?_written
    exact ⟨valid_of_advance hs advance hf, hwritten ▸ advance, by simp [Event.error?], hknows⟩
  | @unwritten o advance changed =>
    have hwritten : written (⟨r', flights⟩, .ended document x (.ok o)) = none := by
      simp [written, Event.target?, changed]
    exact ⟨valid_of_advance hs advance hf, hwritten ▸ advance, by simp [Event.error?], hknows⟩
  | failed advance expected =>
    refine ⟨valid_of_advance hs advance hf, advance, fun e he ↦ ?_, hknows⟩
    obtain rfl := Option.some.inj he
    exact expected

theorem begin_moves (hs : s.Valid) {document : String} {x : Option Version}
    {out : Replica × Progress} (h : s.replica.Begins on document x out) :
    Moves on s (s.begin document x out) := by
  cases h with
  | done ends knows =>
    exact moves_of_ends hs ends knows (List.Subset.refl _)
  | @waiting r' p advance sound id recorded mem =>
    -- The conflict is recorded before its call waits, so its members are known from now on.
    have known : ∀ v ∈ p.conflict.members, r'.Knows v := by
      intro v hv
      obtain ⟨hid, hcheck⟩ := sound.conflict.member v hv
      refine ⟨hcheck, v, ?_, le_rfl⟩
      rwa [hid, id, Replica.knownVersions_of_recorded recorded]
    refine ⟨⟨advance.consistent hs.consistent, fun f hf ↦ ?_⟩, advance,
      by simp [begin, Event.error?], by simp [begin, Event.handled?]⟩
    rcases List.mem_append.1 hf with hf | hf
    · exact (hs.flight f hf).advance advance
    · obtain rfl := List.mem_singleton.1 hf
      exact ⟨sound, mem, known⟩

theorem moves_of_keep (hs : s.Valid) {r' : Replica} (store : r'.store = s.replica.store)
    (registry : r'.registry = s.replica.registry) : Moves on s (⟨r', s.flights⟩, .idle) := by
  have advance : s.replica.Advance none r' := .keep store registry
  exact ⟨valid_of_advance hs advance (List.Subset.refl _), advance, by simp [Event.error?],
    by simp [Event.handled?]⟩

theorem write_moves (hs : s.Valid) {document : String}
    {out : Replica × Except ReplicaError Version} (h : s.replica.Writes on document out) :
    Moves on s (⟨out.1, s.flights⟩, .wrote document out.2) := by
  cases h with
  | @written r' _ v advance id =>
    have hwritten : written (⟨r', s.flights⟩, .wrote document (.ok v)) = some v :=
      id ▸ advance.get?_written
    refine ⟨valid_of_advance hs advance (List.Subset.refl _), hwritten ▸ advance,
      by simp [Event.error?], fun w hw ↦ ?_⟩
    obtain rfl := Option.some.inj hw
    exact advance.knows_written
  | failed expected =>
    refine ⟨hs, .keep rfl rfl, fun e he ↦ ?_, by simp [Event.handled?]⟩
    obtain rfl := Option.some.inj he
    exact expected

/-- Every action of a valid system moves it. -/
theorem step_moves (hs : s.Valid) (on : Conditions) (a : Action) : Moves on s (s.step on a) := by
  cases a with
  | receive v => exact begin_moves hs (Replica.receive_begins on hs.consistent v)
  | deliver d => exact begin_moves hs (Replica.receiveDelivery_begins on hs.consistent d)
  | write id collection payload =>
    exact write_moves hs (Replica.write_writes on s.replica id collection payload)
  | resolve id =>
    rcases Replica.resolvePending_begins on hs.consistent id with h | ⟨r', progress, h, begins⟩
    · simp only [step, h]
      exact moves_of_keep hs rfl rfl
    · simp only [step, h]
      exact begin_moves hs begins
  | resume i run =>
    rw [step]
    split <;> rename_i hf
    · exact moves_of_keep hs rfl rfl
    · rename_i f
      have hmem : f ∈ s.flights := List.mem_of_getElem? hf
      obtain ⟨sound, member, known⟩ := hs.flight f hmem
      -- The version was known when its call began to wait, and this step forgets nothing.
      have ends := Replica.complete_ends on hs.consistent sound run
      obtain ⟨_, advance⟩ := ends.advance
      exact moves_of_ends hs ends (fun _ v _ _ hv ↦ advance.knows (known v (member v hv)))
        List.eraseIdx_subset
  | setPolicy p => exact moves_of_keep hs rfl rfl
  | look => exact moves_of_keep hs rfl rfl

/-! ## Runs -/

theorem run_valid (hs : s.Valid) (steps : List (Conditions × Action)) : (s.run steps).Valid := by
  induction steps generalizing s with
  | nil => exact hs
  | cons step steps ih => exact ih (step_moves hs step.1 step.2).valid

/-- What a replica knows it never forgets. -/
theorem run_knows (hs : s.Valid) {x : Version} (hx : s.replica.Knows x)
    (steps : List (Conditions × Action)) : (s.run steps).replica.Knows x := by
  induction steps generalizing s with
  | nil => exact hx
  | cons step steps ih =>
    have moves := step_moves hs step.1 step.2
    exact ih moves.valid (moves.advance.knows hx)

end System

end CausalReplica
