import CausalReplica.Proofs.Flights

/-!
# The counters account for every event

A call that brings a version is counted when it arrives. Either it is decided at once, and its
outcome is counted, or it opens an attempt to resolve a conflict, as a call does that finds a
recorded conflict. An attempt counts its outcome and is timed when it ends, in the same step or, if
it waits for a script, in a later one. So between two steps the attempts that were opened are those
that have ended and those that wait:

* what arrived is what was decided at once and the conflicts that were detected;
* the conflicts that were detected or found are the attempts that have ended and the calls in
  flight;
* what is counted of outcomes is what the returned outcomes count.

These are kept by every step that no fault of the store ends. What a step adds is said once for each
step of a replica, from the tally of before and what was counted since.
-/

namespace CausalReplica

/-! ## Adding to a tally -/

namespace Counter

/-- How often a decision without a conflict is counted. -/
def decisions (cs : List Counter) : ℕ :=
  cs.count .accepted + cs.count .rejected + cs.count .malformed

/-- How often the end of an attempt to resolve a conflict is counted. -/
def attempts (cs : List Counter) : ℕ :=
  cs.count .resolved + cs.count .unresolved + cs.count .staleResults

theorem decisions_append (cs ds : List Counter) :
    decisions (cs ++ ds) = decisions cs + decisions ds := by
  simp only [decisions, List.count_append]
  omega

theorem attempts_append (cs ds : List Counter) :
    attempts (cs ++ ds) = attempts cs + attempts ds := by
  simp only [attempts, List.count_append]
  omega

/-- The name of the outcomes that a counter counts. -/
def outcomeName? : Counter → Option String
  | .accepted => some "accepted"
  | .rejected => some "rejected"
  | .malformed => some "malformed"
  | .resolved => some "resolved"
  | .unresolved => some "conflicted"
  | .staleResults => some "superseded"
  | _ => none

end Counter

namespace Tally

/-- One more is counted for every counter of a list, as often as it occurs, and more resolutions are
timed. -/
structure Adds (t : Tally) (cs : List Counter) (times : ℕ) (t' : Tally) : Prop where
  count : ∀ c, t'.count c = t.count c + cs.count c
  timed : t'.timed = t.timed + times

/-- What was decided without a conflict. -/
def decided (t : Tally) : ℕ := t.accepted + t.rejected + t.malformed

/-- The attempts to resolve a conflict that have ended. -/
def attempted (t : Tally) : ℕ := t.resolved + t.unresolved + t.staleResults

namespace Adds

variable {t t' : Tally} {cs : List Counter} {n : ℕ}

theorem refl (t : Tally) : t.Adds [] 0 t := ⟨fun _ ↦ rfl, rfl⟩

theorem increment (h : t.Adds cs n t') (c : Counter) : t.Adds (cs ++ [c]) n (t'.increment c) where
  count d := by
    have hsingle : [c].count d = if d = c then 1 else 0 := by
      rw [List.count_singleton]
      simp only [beq_iff_eq, @eq_comm _ c d]
    rw [count_increment, h.count, List.count_append, hsingle, Nat.add_assoc]
  timed := by
    rw [← h.timed]
    cases c <;> rfl

theorem observe (h : t.Adds cs n t') (time : Millis) : t.Adds cs (n + 1) (t'.observe time) where
  count c := by
    have hcount : (t'.observe time).count c = t'.count c := by cases c <;> rfl
    rw [hcount, h.count]
  timed := by rw [← Nat.add_assoc, ← h.timed]; rfl

theorem decided (h : t.Adds cs n t') : t'.decided = t.decided + Counter.decisions cs := by
  have haccepted : t'.accepted = t.accepted + cs.count .accepted := h.count .accepted
  have hrejected : t'.rejected = t.rejected + cs.count .rejected := h.count .rejected
  have hmalformed : t'.malformed = t.malformed + cs.count .malformed := h.count .malformed
  rw [Tally.decided, Tally.decided, Counter.decisions]
  omega

theorem attempted (h : t.Adds cs n t') : t'.attempted = t.attempted + Counter.attempts cs := by
  have hresolved : t'.resolved = t.resolved + cs.count .resolved := h.count .resolved
  have hunresolved : t'.unresolved = t.unresolved + cs.count .unresolved := h.count .unresolved
  have hstale : t'.staleResults = t.staleResults + cs.count .staleResults :=
    h.count .staleResults
  rw [Tally.attempted, Tally.attempted, Counter.attempts]
  omega

end Adds

end Tally

/-! ## Outcomes -/

namespace Outcome

/-- What is counted when a call ends with an outcome. -/
def ticks : Outcome → List Counter
  | .accepted _ => [.accepted]
  | .rejected _ => [.rejected]
  | .resolved _ => [.resolved]
  | .conflicted _ reason =>
    if reason.isScriptFailure then [.unresolved, .scriptFailures] else [.unresolved]
  | .superseded => [.staleResults]
  | .malformed _ => [.malformed]
  | .failed _ => []

/-- The version met no conflict. -/
def direct : Outcome → Bool
  | .accepted _ => true
  | .rejected _ => true
  | .malformed _ => true
  | _ => false

/-- An attempt to resolve a conflict ended like this. -/
def attempted : Outcome → Bool
  | .resolved _ => true
  | .conflicted .. => true
  | .superseded => true
  | _ => false

/-- An attempt to resolve a conflict ended with an error of its script or out of time. -/
def scriptFailed : Outcome → Bool
  | .conflicted _ reason => reason.isScriptFailure
  | _ => false

/-- Arrivals and conflicts are counted before there is any outcome. -/
theorem notMem_ticks (o : Outcome) : .received ∉ o.ticks ∧ .detected ∉ o.ticks := by
  cases o with
  | conflicted members reason =>
    rw [ticks]
    split <;> decide
  | _ => simp [ticks]

theorem count_flatMap_ticks (os : List Outcome) :
    (os.flatMap ticks).count .received = 0 ∧ (os.flatMap ticks).count .detected = 0 := by
  constructor <;> rw [List.count_eq_zero, List.mem_flatMap]
  · rintro ⟨o, -, h⟩
    exact o.notMem_ticks.1 h
  · rintro ⟨o, -, h⟩
    exact o.notMem_ticks.2 h

theorem ticks_of_direct {o : Outcome} (h : o.direct = true) :
    Counter.decisions o.ticks = 1 ∧ Counter.attempts o.ticks = 0 := by
  cases o with
  | accepted | rejected | malformed => exact ⟨rfl, rfl⟩
  | _ => contradiction

theorem ticks_of_attempted {o : Outcome} (h : o.attempted = true) :
    Counter.decisions o.ticks = 0 ∧ Counter.attempts o.ticks = 1 := by
  cases o with
  | resolved | superseded => exact ⟨rfl, rfl⟩
  | conflicted members reason => rw [ticks]; split <;> exact ⟨rfl, rfl⟩
  | _ => contradiction

theorem count_ticks_of_outcomeName {c : Counter} {name : String} (h : c.outcomeName? = some name)
    (o : Outcome) : o.ticks.count c = if decide (o.name = name) then 1 else 0 := by
  cases o with
  | conflicted members reason =>
    rw [ticks]
    cases c <;> cases h <;> cases reason.isScriptFailure <;> rfl
  | _ => cases c <;> cases h <;> rfl

theorem count_ticks_scriptFailures (o : Outcome) :
    o.ticks.count .scriptFailures = if o.scriptFailed then 1 else 0 := by
  cases o with
  | conflicted members reason =>
    rw [ticks, scriptFailed]
    cases reason.isScriptFailure <;> rfl
  | _ => rfl

end Outcome

namespace Replica

variable {on : Conditions} {r : Replica} {c : Conflict} {t : Tally} {cs : List Counter} {n : ℕ}

/-! ## Attempts -/

/-- An attempt to resolve a conflict ends: its outcome is counted after `cs`. -/
inductive Concludes (t : Tally) (cs : List Counter) (times : ℕ) :
    Replica × Except ReplicaError Outcome → Prop
  | ended {r' : Replica} {o : Outcome} (attempted : o.attempted = true)
    (adds : t.Adds (cs ++ o.ticks) times r'.tally) : Concludes t cs times (r', .ok o)
  | failed {r' : Replica} {e : StoreError} : Concludes t cs times (r', .error (.store e))

theorem stored_cases (on : Conditions) (r : Replica) (v : Version) :
    (∃ e, r.stored on v = .error (.store e)) ∨
    ∃ r', r.stored on v = .ok r' ∧ r'.tally = r.tally := by
  rw [stored]
  split
  · exact .inr ⟨_, rfl, rfl⟩
  · exact .inl ⟨_, rfl⟩

theorem finish_concludes (on : Conditions) (hc : c.Sound) (h : t.Adds cs n r.tally)
    (resolution : Resolution) : Concludes t cs n (finish on r c resolution) := by
  cases resolution with
  | resolved v =>
    rw [finish]
    rcases stored_cases on r v with ⟨e, hs⟩ | ⟨r', hs, htally⟩
    · simp only [hs]
      exact .failed
    · simp only [hs]
      rw [← htally] at h
      exact .ended rfl (h.increment .resolved)
  | unresolved reason =>
    have hunresolved := h.increment .unresolved
    simp only [finish, hc.record r.registry]
    refine .ended rfl ?_
    rw [Outcome.ticks]
    cases reason.isScriptFailure with
    | true =>
      have hfailed := hunresolved.increment .scriptFailures
      rw [List.append_assoc] at hfailed
      exact hfailed
    | false => exact hunresolved

theorem commit_concludes (on : Conditions) (hc : c.Sound) (h : t.Adds cs n r.tally)
    (resolution : Resolution) (time : Millis) :
    Concludes t cs (n + 1) (commit on r c resolution time) := by
  have htimed : t.Adds cs (n + 1) (r.timed time).tally := h.observe time
  rw [commit]
  split
  · exact finish_concludes on hc htimed resolution
  · exact .ended rfl (htimed.increment .staleResults)

/-- The first step of an attempt ends it, or the attempt waits and nothing more is counted. -/
inductive Attempts (t : Tally) (cs : List Counter) : Replica × Progress → Prop
  | ended {r' : Replica} {result : Except ReplicaError Outcome}
    (concludes : Concludes t cs 1 (r', result)) : Attempts t cs (r', .done result)
  | waiting {r' : Replica} {p : Pending} (adds : t.Adds cs 0 r'.tally) :
    Attempts t cs (r', .waiting p)

theorem settle_attempts (on : Conditions) (hc : c.Sound) (h : t.Adds cs 0 r.tally) :
    Attempts t cs (settle on r c) := by
  rw [settle]
  split
  · exact .ended (finish_concludes on hc (h.observe ⟨0⟩) _)
  · simp only [hc.record r.registry]
    exact .waiting h

/-! ## Arrivals -/

/-- The first step of a call that brings a version: the version is decided, or it opens an
attempt. -/
inductive Admits (t : Tally) : Replica × Progress → Prop
  | decided {r' : Replica} {o : Outcome} (direct : o.direct = true)
    (adds : t.Adds (.received :: o.ticks) 0 r'.tally) : Admits t (r', .done (.ok o))
  | opened {out : Replica × Progress} (attempts : Attempts t [.received, .detected] out) :
    Admits t out
  | failed {r' : Replica} {e : StoreError} : Admits t (r', .done (.error (.store e)))

theorem received_adds (r : Replica) : r.tally.Adds [.received] 0 (r.tick .received).tally :=
  (Tally.Adds.refl r.tally).increment .received

theorem malformed_admits (r : Replica) (reason : String) :
    Admits r.tally ((r.malformed reason).1, .done (.ok (r.malformed reason).2)) :=
  .decided rfl (r.received_adds.increment .malformed)

theorem process_admits (on : Conditions) (hr : r.Consistent) {v : Version} (hv : v.check = .ok ())
    (h : t.Adds [.received] 0 r.tally) : Admits t (process on r v) := by
  rcases known_cases on r v.id with ⟨error, -, hk⟩ | ⟨known, hk, -, hsound⟩
  · rw [process_of_error hk]
    exact .failed
  · rw [process_of_known hk]
    have holds := Verdict.judge_holds (hsound hr) hv
    generalize Verdict.judge v known = verdict at holds
    cases holds with
    | accept above =>
      rcases stored_cases on r v with ⟨e, hs⟩ | ⟨r', hs, htally⟩
      · simp only [follow, hs]
        exact .failed
      · simp only [follow, hs]
        rw [← htally] at h
        exact .decided rfl (h.increment .accepted)
    | reject reason below => exact .decided rfl (h.increment .rejected)
    | conflict c sound id mem covers nonempty =>
      exact .opened (settle_attempts on sound (h.increment .detected))

theorem receive_admits (on : Conditions) (hr : r.Consistent) (v : Version) :
    Admits r.tally (r.receive on v) := by
  have hreceived : (r.tick .received).Consistent := hr.congr rfl rfl
  rw [receive]
  split <;> rename_i hv
  · exact malformed_admits _ _
  · exact process_admits on hreceived hv r.received_adds

theorem receiveDelivery_admits (on : Conditions) (hr : r.Consistent) (d : Delivery) :
    Admits r.tally (r.receiveDelivery on d) := by
  have hreceived : (r.tick .received).Consistent := hr.congr rfl rfl
  match d with
  | .error unreadable => exact malformed_admits _ _
  | .ok raw =>
    rw [receiveDelivery, receiveWire]
    split <;> rename_i hraw
    · exact malformed_admits _ _
    · obtain ⟨hcheck, -⟩ := Version.check_of_ofWire hraw
      exact process_admits on hreceived hcheck r.received_adds

theorem tally_write (on : Conditions) (r : Replica) (id collection : String)
    (payload : Option Bytes) : (r.write on id collection payload).1.tally = r.tally := by
  rw [write]
  split
  · rfl
  · rename_i v _
    rcases stored_cases on r v with ⟨e, hs⟩ | ⟨r', hs, htally⟩
    · simp only [hs]
    · simp only [hs]
      split <;> exact htally

end Replica

/-! ## Steps of a system -/

/-- The action brings a version, or something that cannot be read as one. -/
def Action.delivers : Action → Bool
  | .receive _ => true
  | .deliver _ => true
  | _ => false

namespace Event

def outcome? : Event → Option Outcome
  | .ended _ _ (.ok o) => some o
  | _ => none

/-- A call ends because a call of the store has failed. -/
def storeFailed (e : Event) : Bool :=
  match e.error? with
  | some (.store _) => true
  | _ => false

end Event

namespace System

variable {on : Conditions} {s : System} {a : Action}

/-- The action begins to resolve a conflict that it finds recorded. -/
def finds (s : System) : Action → Bool
  | .resolve id => (s.replica.registry.get? id).isSome
  | _ => false

/-- What is counted before an attempt to resolve a conflict begins. -/
def opening (a : Action) : List Counter := if a.delivers then [.received, .detected] else []

/-- What a step that no call of the store ends adds to the tally, and how many calls it leaves in
flight. -/
inductive Books (s : System) (a : Action) : System × Event → Prop
  /-- Nothing is counted, and no call begins or ends. -/
  | quiet {r' : Replica} {e : Event} (delivers : a.delivers = false) (finds : s.finds a = false)
    (tally : r'.tally = s.replica.tally) (outcome : e.outcome? = none) :
    Books s a (⟨r', s.flights⟩, e)
  /-- A version is decided. -/
  | decided {r' : Replica} {e : Event} {o : Outcome} (delivers : a.delivers = true)
    (finds : s.finds a = false) (direct : o.direct = true)
    (adds : s.replica.tally.Adds (.received :: o.ticks) 0 r'.tally)
    (outcome : e.outcome? = some o) :
    Books s a (⟨r', s.flights⟩, e)
  /-- An attempt begins and ends. -/
  | attempted {r' : Replica} {e : Event} {o : Outcome} (opens : a.delivers = !s.finds a)
    (attempted : o.attempted = true)
    (adds : s.replica.tally.Adds (opening a ++ o.ticks) 1 r'.tally)
    (outcome : e.outcome? = some o) :
    Books s a (⟨r', s.flights⟩, e)
  /-- An attempt begins and waits. -/
  | waits {r' : Replica} {e : Event} {f : Flight} (opens : a.delivers = !s.finds a)
    (adds : s.replica.tally.Adds (opening a) 0 r'.tally) (outcome : e.outcome? = none) :
    Books s a (⟨r', s.flights ++ [f]⟩, e)
  /-- An attempt that waited ends. -/
  | resumed {r' : Replica} {e : Event} {o : Outcome} {i : ℕ} (delivers : a.delivers = false)
    (finds : s.finds a = false) (within : i < s.flights.length) (attempted : o.attempted = true)
    (adds : s.replica.tally.Adds o.ticks 1 r'.tally) (outcome : e.outcome? = some o) :
    Books s a (⟨r', s.flights.eraseIdx i⟩, e)

theorem begin_books_of_attempts {document : String} {x : Option Version}
    {out : Replica × Progress} (opens : a.delivers = !s.finds a)
    (h : Replica.Attempts s.replica.tally (opening a) out)
    (healthy : (s.begin document x out).2.storeFailed = false) :
    Books s a (s.begin document x out) := by
  cases h with
  | ended concludes =>
    cases concludes with
    | ended attempted adds => exact .attempted opens attempted adds rfl
    | failed => contradiction
  | waiting adds => exact .waits opens adds rfl

theorem begin_books_of_admits {document : String} {x : Option Version} {out : Replica × Progress}
    (delivers : a.delivers = true) (finds : s.finds a = false)
    (h : Replica.Admits s.replica.tally out)
    (healthy : (s.begin document x out).2.storeFailed = false) :
    Books s a (s.begin document x out) := by
  cases h with
  | decided direct adds => exact .decided delivers finds direct adds rfl
  | opened attempts =>
    have hopening : opening a = [.received, .detected] := if_pos delivers
    exact begin_books_of_attempts (by rw [delivers, finds]; rfl) (hopening ▸ attempts) healthy
  | failed => contradiction

theorem step_books (hs : s.Valid) (healthy : (s.step on a).2.storeFailed = false) :
    Books s a (s.step on a) := by
  cases a with
  | receive v =>
    have admits := s.replica.receive_admits on hs.consistent v
    exact begin_books_of_admits rfl rfl admits healthy
  | deliver d =>
    have admits := s.replica.receiveDelivery_admits on hs.consistent d
    exact begin_books_of_admits rfl rfl admits healthy
  | write id collection payload =>
    exact .quiet rfl rfl (s.replica.tally_write on id collection payload) rfl
  | resolve id =>
    cases hc : s.replica.registry.get? id with
    | none =>
      have hfinds : s.finds (.resolve id) = false := by rw [finds, hc]; rfl
      rw [step, Replica.resolvePending, hc]
      exact .quiet rfl hfinds rfl rfl
    | some c =>
      have hfinds : s.finds (.resolve id) = true := by rw [finds, hc]; rfl
      obtain ⟨-, hsound, -⟩ := hs.consistent.recorded id c hc
      have attempts := Replica.settle_attempts on hsound (Tally.Adds.refl s.replica.tally)
      rw [step, Replica.resolvePending, hc] at healthy ⊢
      exact begin_books_of_attempts (by rw [hfinds]; rfl) attempts healthy
  | resume i run =>
    cases hf : s.flights[i]? with
    | none =>
      rw [step, hf]
      exact .quiet rfl rfl rfl rfl
    | some f =>
      obtain ⟨hlt, -⟩ := List.getElem?_eq_some_iff.1 hf
      have hsound := (hs.flight f (List.mem_of_getElem? hf)).sound.conflict
      obtain ⟨resolution, time, -, -, hstep⟩ := resume_eq on run hf
      have concludes := Replica.commit_concludes on hsound (Tally.Adds.refl s.replica.tally)
        resolution time
      rw [hstep] at healthy ⊢
      generalize s.replica.commit on f.pending.conflict resolution time = out
        at concludes healthy
      cases concludes with
      | ended attempted adds => exact .resumed rfl rfl hlt attempted adds rfl
      | failed => contradiction
  | setPolicy p => exact .quiet rfl rfl rfl rfl
  | look => exact .quiet rfl rfl rfl rfl

/-! ## Runs of a system -/

/-- The tally of a system accounts for what has happened: versions that arrived, conflicts that were
found to be resolved again, and outcomes that were returned. -/
structure Accounts (s : System) (arrivals found : ℕ) (returned : List Outcome) : Prop where
  received : s.replica.tally.received = arrivals
  decided : s.replica.tally.decided + s.replica.tally.detected = arrivals
  /-- The attempts that have begun have ended or wait. -/
  attempted : s.replica.tally.attempted + s.flights.length = s.replica.tally.detected + found
  timed : s.replica.tally.timed = s.replica.tally.attempted
  outcomes : ∀ c, c ≠ .received → c ≠ .detected →
    s.replica.tally.count c = (returned.flatMap Outcome.ticks).count c

theorem fresh_accounts (node : NodeId) (policy : Policy) (limit : Span) :
    (fresh node policy limit).Accounts 0 0 [] where
  received := rfl
  decided := rfl
  attempted := rfl
  timed := rfl
  outcomes c _ _ := by cases c <;> rfl

/-- What is counted before an attempt: one detected conflict for a version that arrives, and nothing
where a recorded conflict is found. -/
theorem count_opening (opens : a.delivers = !s.finds a) :
    (opening a).count .received = a.delivers.toNat ∧
    (opening a).count .detected = a.delivers.toNat ∧
    a.delivers.toNat + (s.finds a).toNat = 1 ∧
    ∀ c, c ≠ .received → c ≠ .detected → (opening a).count c = 0 := by
  rw [opening, opens]
  cases s.finds a with
  | true => exact ⟨rfl, rfl, rfl, fun _ _ _ ↦ rfl⟩
  | false =>
    refine ⟨rfl, rfl, rfl, fun c hc hd ↦ List.count_eq_zero.2 fun hmem ↦ ?_⟩
    rcases List.mem_pair.1 hmem with h | h
    · exact hc h
    · exact hd h

/-- An account is kept by what counts `pre` before any outcome and then what some outcomes count:
for every version that arrives a decision or a detected conflict, and for every conflict that is
detected or found an attempt that ends or a call that waits. -/
theorem Accounts.add {arrivals found times found' : ℕ} {returned : List Outcome} {r' : Replica}
    {flights : List Flight} (h : s.Accounts arrivals found returned) (pre : List Counter)
    (os : List Outcome)
    (adds : s.replica.tally.Adds (pre ++ os.flatMap Outcome.ticks) times r'.tally)
    (hpre : ∀ c, c ≠ .received → c ≠ .detected → pre.count c = 0)
    (hdecided : pre.count .received = pre.count .detected +
      Counter.decisions (os.flatMap Outcome.ticks))
    (hattempted : Counter.attempts (os.flatMap Outcome.ticks) + flights.length =
      s.flights.length + (pre.count .detected + found'))
    (htimes : times = Counter.attempts (os.flatMap Outcome.ticks)) :
    Accounts ⟨r', flights⟩ (arrivals + pre.count .received) (found + found') (returned ++ os) := by
  obtain ⟨hreceived, hdetected⟩ := Outcome.count_flatMap_ticks os
  obtain ⟨hdecisions, hattempts⟩ : Counter.decisions pre = 0 ∧ Counter.attempts pre = 0 := by
    simp [Counter.decisions, Counter.attempts, hpre]
  have hcount := adds.count
  have htallyDecided := adds.decided
  have htallyAttempted := adds.attempted
  simp only [List.count_append] at hcount
  rw [Counter.decisions_append, hdecisions, Nat.zero_add] at htallyDecided
  rw [Counter.attempts_append, hattempts, Nat.zero_add] at htallyAttempted
  have htallyReceived : r'.tally.received = s.replica.tally.received + _ := hcount .received
  have htallyDetected : r'.tally.detected = s.replica.tally.detected + _ := hcount .detected
  rw [hreceived, Nat.add_zero] at htallyReceived
  rw [hdetected, Nat.add_zero] at htallyDetected
  obtain ⟨received, decided, attempted, timed, outcomes⟩ := h
  constructor
  · rw [htallyReceived, received]
  · change r'.tally.decided + r'.tally.detected = _
    omega
  · change r'.tally.attempted + flights.length = r'.tally.detected + _
    omega
  · change r'.tally.timed = r'.tally.attempted
    have htimed := adds.timed
    omega
  · intro c hc hd
    rw [List.flatMap_append, List.count_append, hcount, hpre c hc hd, Nat.zero_add,
      outcomes c hc hd]

theorem Accounts.step {arrivals found : ℕ} {returned : List Outcome} {out : System × Event}
    (h : s.Accounts arrivals found returned) (books : Books s a out) :
    out.1.Accounts (arrivals + a.delivers.toNat) (found + (s.finds a).toNat)
      (returned ++ out.2.outcome?.toList) := by
  cases books with
  | @quiet r' _ delivers finds tally outcome =>
    have adds : s.replica.tally.Adds ([] ++ [].flatMap Outcome.ticks) 0 r'.tally :=
      tally ▸ Tally.Adds.refl s.replica.tally
    rw [delivers, finds, outcome]
    exact h.add [] [] adds (fun _ _ _ ↦ rfl) rfl (by simp [Counter.attempts]) rfl
  | @decided _ _ o delivers finds direct adds outcome =>
    obtain ⟨hdecisions, hattempts⟩ := Outcome.ticks_of_direct direct
    rw [← List.flatMap_singleton Outcome.ticks o] at hdecisions hattempts adds
    rw [delivers, finds, outcome, Option.toList_some]
    refine h.add [.received] [o] adds (fun c hc _ ↦ ?_) ?_ ?_ hattempts.symm
    · exact List.count_eq_zero.2 fun hmem ↦ hc (List.mem_singleton.1 hmem)
    · rw [hdecisions]
      rfl
    · rw [hattempts, Nat.zero_add]
      rfl
  | @attempted _ _ o opens attempted adds outcome =>
    obtain ⟨hdecisions, hattempts⟩ := Outcome.ticks_of_attempted attempted
    obtain ⟨hreceived, hdetected, hopens, hpre⟩ := count_opening opens
    rw [← List.flatMap_singleton Outcome.ticks o] at hdecisions hattempts adds
    rw [outcome, ← hreceived, Option.toList_some]
    refine h.add (opening a) [o] adds hpre ?_ ?_ hattempts.symm
    · rw [hdecisions, hreceived, hdetected]
      rfl
    · rw [hattempts, hdetected, hopens]
      exact Nat.add_comm _ _
  | @waits r' _ f opens adds outcome =>
    obtain ⟨hreceived, hdetected, hopens, hpre⟩ := count_opening opens
    have hadds : s.replica.tally.Adds (opening a ++ [].flatMap Outcome.ticks) 0 r'.tally :=
      (List.append_nil (opening a)).symm ▸ adds
    rw [outcome, ← hreceived]
    refine h.add (opening a) [] hadds hpre ?_ ?_ rfl
    · rw [hreceived, hdetected]
      rfl
    · rw [hdetected, hopens, List.length_append, List.length_singleton]
      exact Nat.zero_add _
  | @resumed _ _ o i delivers finds within attempted adds outcome =>
    obtain ⟨hdecisions, hattempts⟩ := Outcome.ticks_of_attempted attempted
    have hlength := List.length_eraseIdx_add_one within
    rw [← List.flatMap_singleton Outcome.ticks o] at hdecisions hattempts adds
    rw [delivers, finds, outcome, Option.toList_some]
    refine h.add [] [o] adds (fun _ _ _ ↦ rfl) ?_ ?_ hattempts.symm
    · rw [hdecisions]
      rfl
    · rw [hattempts, Nat.add_comm, hlength]
      rfl

/-- What comes of the actions of a run, in order. -/
def events (s : System) : List (Conditions × Action) → List Event
  | [] => []
  | (on, a) :: rest => (s.step on a).2 :: (s.step on a).1.events rest

/-- The outcomes that the calls of a run return, in order. -/
def returned (s : System) (steps : List (Conditions × Action)) : List Outcome :=
  (s.events steps).filterMap Event.outcome?

/-- How many versions arrive in a run. -/
def arrivals (steps : List (Conditions × Action)) : ℕ := steps.countP (·.2.delivers)

/-- How many actions of a run begin to resolve a conflict that they find recorded. -/
def found (s : System) : List (Conditions × Action) → ℕ
  | [] => 0
  | (on, a) :: rest => (s.finds a).toNat + (s.step on a).1.found rest

theorem arrivals_cons (on : Conditions) (a : Action) (steps : List (Conditions × Action)) :
    arrivals ((on, a) :: steps) = a.delivers.toNat + arrivals steps := by
  rw [arrivals, List.countP_cons, Nat.add_comm, ← arrivals]
  cases a.delivers <;> rfl

theorem returned_cons (s : System) (on : Conditions) (a : Action)
    (steps : List (Conditions × Action)) : s.returned ((on, a) :: steps) =
      (s.step on a).2.outcome?.toList ++ (s.step on a).1.returned steps := by
  rw [returned, events, List.filterMap_cons, returned]
  cases (s.step on a).2.outcome? <;> rfl

theorem Accounts.run {arrived discovered : ℕ} {outcomes : List Outcome}
    (h : s.Accounts arrived discovered outcomes) (hs : s.Valid)
    {steps : List (Conditions × Action)} (healthy : ∀ e ∈ s.events steps, e.storeFailed = false) :
    (s.run steps).Accounts (arrived + arrivals steps) (discovered + s.found steps)
      (outcomes ++ s.returned steps) := by
  induction steps generalizing s arrived discovered outcomes with
  | nil => rwa [returned, events, List.filterMap_nil, List.append_nil]
  | cons step steps ih =>
    obtain ⟨on, a⟩ := step
    obtain ⟨hfirst, hrest⟩ := List.forall_mem_cons.1 healthy
    have hstep := h.step (step_books hs hfirst)
    have hrun := ih hstep (step_moves hs on a).valid hrest
    rwa [arrivals_cons, found, returned_cons, ← Nat.add_assoc, ← Nat.add_assoc,
      ← List.append_assoc]

theorem Accounts.count_eq {arrived discovered : ℕ} {outcomes : List Outcome}
    (h : s.Accounts arrived discovered outcomes) {c : Counter} (hreceived : c ≠ .received)
    (hdetected : c ≠ .detected) {p : Outcome → Bool}
    (hp : ∀ o, o.ticks.count c = if p o then 1 else 0) :
    s.replica.tally.count c = outcomes.countP p := by
  rw [h.outcomes c hreceived hdetected]
  clear h
  induction outcomes with
  | nil => rfl
  | cons o outcomes ih =>
    rw [List.flatMap_cons, List.count_append, ih, hp, List.countP_cons, Nat.add_comm]

/-- In every run in which no call of the store fails, whatever the policies, the answers of scripts
and the overlap of calls, the counters account for all that has happened once no call is in flight.
What arrived was decided or met a conflict, every conflict that was met or found was attempted once,
and every outcome that was returned has been counted under its name. -/
theorem counters_account_for_events (node : NodeId) (policy : Policy) (limit : Span)
    (steps : List (Conditions × Action))
    (healthy : ∀ e ∈ (fresh node policy limit).events steps, e.storeFailed = false)
    (idle : ((fresh node policy limit).run steps).flights = []) :
    let start := fresh node policy limit
    let t := (start.run steps).replica.tally
    let named (name : String) := (start.returned steps).countP fun o ↦ o.name = name
    t.received = arrivals steps ∧
    t.received = t.accepted + t.rejected + t.malformed + t.detected ∧
    t.resolved + t.unresolved + t.staleResults = t.detected + start.found steps ∧
    t.resolved + t.unresolved + t.staleResults = t.timed ∧
    t.accepted = named "accepted" ∧ t.rejected = named "rejected" ∧
    t.malformed = named "malformed" ∧ t.resolved = named "resolved" ∧
    t.unresolved = named "conflicted" ∧ t.staleResults = named "superseded" ∧
    t.scriptFailures = (start.returned steps).countP (·.scriptFailed) := by
  intro start t named
  have account := (fresh_accounts node policy limit).run (fresh_valid node policy limit) healthy
  rw [Nat.zero_add, Nat.zero_add, List.nil_append] at account
  have hattempted := account.attempted
  rw [idle, List.length_nil, Nat.add_zero] at hattempted
  have hnamed : ∀ {c : Counter} {name : String}, c.outcomeName? = some name →
      t.count c = named name := by
    intro c name hname
    refine account.count_eq ?_ ?_ fun o ↦ o.count_ticks_of_outcomeName hname
    · rintro rfl
      contradiction
    · rintro rfl
      contradiction
  have hscripts : t.scriptFailures = (start.returned steps).countP (·.scriptFailed) :=
    account.count_eq (c := .scriptFailures) (by decide) (by decide)
      Outcome.count_ticks_scriptFailures
  exact ⟨account.received, account.received.trans account.decided.symm, hattempted,
    account.timed.symm, hnamed (c := .accepted) rfl, hnamed (c := .rejected) rfl,
    hnamed (c := .malformed) rfl, hnamed (c := .resolved) rfl, hnamed (c := .unresolved) rfl,
    hnamed (c := .staleResults) rfl, hscripts⟩

theorem storeFailed_of_valid (hs : s.Valid) (hon : on.faults = .none) (a : Action) :
    (s.step on a).2.storeFailed = false := by
  have hexpected := (step_moves hs on a).expected
  rw [Event.storeFailed]
  cases herror : (s.step on a).2.error? with
  | none => rfl
  | some e =>
    cases hexpected e herror with
    | malformed | vector => rfl
    | read h | write h =>
      rw [hon] at h
      contradiction

theorem events_of_valid (hs : s.Valid) {steps : List (Conditions × Action)}
    (h : ∀ step ∈ steps, step.1.faults = .none) :
    ∀ e ∈ s.events steps, e.storeFailed = false := by
  induction steps generalizing s with
  | nil => exact fun e he ↦ absurd he List.not_mem_nil
  | cons step steps ih =>
    obtain ⟨hstep, hsteps⟩ := List.forall_mem_cons.1 h
    rw [events, List.forall_mem_cons]
    exact ⟨storeFailed_of_valid hs hstep step.2, ih (step_moves hs step.1 step.2).valid hsteps⟩

/-- Two concurrent versions arrive, the conflict is attempted again while their script runs, the
first run of the script fails and the second one gives a document. Then something arrives that
cannot be read. -/
def accountedRun : List (Conditions × Action) :=
  [(⟨1, .none⟩, .receive (.document "doc" "notes" [1] (.authored ⟨1⟩) 1)),
    (⟨2, .none⟩, .receive (.document "doc" "notes" [2] (.authored ⟨2⟩) 2)),
    (⟨3, .none⟩, .resolve "doc"),
    (⟨4, .none⟩, .resume 0 ⟨.ofSeconds 1, .error (.failed "merge" "out of memory")⟩),
    (⟨5, .none⟩, .resume 0 ⟨.ofSeconds 1, .ok (.document [3])⟩),
    (⟨6, .none⟩, .deliver (.error ⟨"doc", "torn"⟩))]

theorem counters_account_for_events_accountedRun :
    let start := fresh ⟨3⟩ (.scripts (.ofList [("notes", "merge")])) Replica.defaultLimit
    let t := (start.run accountedRun).replica.tally
    (∀ e ∈ start.events accountedRun, e.storeFailed = false) ∧
    (start.run (accountedRun.take 3)).flights.length = 2 ∧ (start.run accountedRun).flights = [] ∧
    t.received = 3 ∧ t.resolved + t.unresolved + t.staleResults = t.detected + 1 := by
  intro start t
  have hfaults : ∀ step ∈ accountedRun, step.1.faults = .none := by simp [accountedRun]
  have healthy := events_of_valid (fresh_valid ⟨3⟩ (.scripts (.ofList [("notes", "merge")]))
    Replica.defaultLimit) hfaults
  have idle : (start.run accountedRun).flights = [] := by rfl
  have hfound : start.found accountedRun = 1 := by rfl
  obtain ⟨hreceived, -, hattempted, -⟩ := counters_account_for_events ⟨3⟩
    (.scripts (.ofList [("notes", "merge")])) Replica.defaultLimit accountedRun healthy idle
  exact ⟨healthy, by rfl, idle, hreceived, hfound ▸ hattempted⟩

end System

end CausalReplica
