import CausalReplica.Proofs.System
import Mathlib.Data.List.Perm.Basic

/-!
# Overlapping calls are runs of a system

A call over the host of trees is the tree of what it does: atomic steps, and runs of scripts between
them. In a pool any number of calls are under way, each of them goes on whenever it is its turn, a
script gives any answer, and a call that gets no turn any more has been dropped.

Every state that a pool reaches is the state of a run of a system, so whatever holds of the replica
in all runs holds of it while the calls run as they are written. The proof follows each call through
its tree: between two parts of it the call holds nothing, and from the step that records a conflict
to the step that commits its resolution it holds the flight that the system has for it.
-/

namespace CausalReplica

/-- What a call does next: it has finished, or it takes an atomic step, or it runs a script. -/
inductive Call (α : Type) : Type 1
  | finished (answer : α)
  | atomic {β : Type} (step : Conditions → Replica → Replica × β) (next : β → Call α)
  | script (request : Script.Request) (next : Script.Run → Call α)

namespace Call

variable {α β : Type}

/-- One call, and another one that depends on its answer. -/
def andThen : Call α → (α → Call β) → Call β
  | .finished answer, k => k answer
  | .atomic step next, k => .atomic step fun b ↦ (next b).andThen k
  | .script request next, k => .script request fun run ↦ (next run).andThen k

instance : Monad Call where
  pure := .finished
  bind := andThen

/-- The host that writes down what a call does. -/
def host : Host Call where
  atomic step := .atomic step .finished
  run request := .script request .finished

/-- The calls on a replica. -/
inductive Entry : {α : Type} → Call α → Prop
  | receive (v : Version) : Entry (host.receive v)
  | receiveWire (raw : WireVersion) : Entry (host.receiveWire raw)
  | receiveAll (source : NodeId) (slots : List Delivery) : Entry (host.receiveAll source slots)
  | resolvePending (id : String) : Entry (host.resolvePending id)
  | resolveAll : Entry host.resolveAll
  | write (id collection : String) (payload : Option Bytes) :
    Entry (host.atomic fun on r ↦ r.write on id collection payload)
  | setPolicy (p : Policy) : Entry (host.atomic fun _ r ↦ (r.setPolicy p, ()))
  | read (id : String) : Entry (host.atomic fun on r ↦ (r, r.read on id))

end Call

/-- Calls that are under way on one replica. -/
structure Pool where
  replica : Replica
  calls : List (Σ α : Type, Call α)

namespace Pool

/-- One step of a pool: a call starts, or some call goes on. -/
inductive Step : Pool → Pool → Prop
  | start {r : Replica} {calls : List (Σ α : Type, Call α)} {α : Type} {call : Call α}
    (entry : call.Entry) : Step ⟨r, calls⟩ ⟨r, calls ++ [⟨α, call⟩]⟩
  | atomic {r : Replica} {before after : List (Σ α : Type, Call α)} {α β : Type}
    (on : Conditions) (step : Conditions → Replica → Replica × β) (next : β → Call α) :
    Step ⟨r, before ++ ⟨α, .atomic step next⟩ :: after⟩
      ⟨(step on r).1, before ++ ⟨α, next (step on r).2⟩ :: after⟩
  | script {r : Replica} {before after : List (Σ α : Type, Call α)} {α : Type}
    (request : Script.Request) (next : Script.Run → Call α) (run : Script.Run) :
    Step ⟨r, before ++ ⟨α, .script request next⟩ :: after⟩
      ⟨r, before ++ ⟨α, next run⟩ :: after⟩

/-- A pool that steps lead to from a replica that knows no document. -/
def Reachable (node : NodeId) (policy : Policy) (limit : Span) (p : Pool) : Prop :=
  Relation.ReflTransGen Step ⟨.fresh node policy limit, []⟩ p

end Pool

/-! ## Following a call -/

/-- Where a call stands. -/
inductive Stage where
  | free
  /-- It holds a recorded conflict that is to be resolved. -/
  | holding (f : Flight)
  /-- Its script has given a result. -/
  | answered (f : Flight) (run : Script.Run)

/-- The flight that the system has for a call. -/
def Stage.flight? : Stage → Option Flight
  | .free => none
  | .holding f => some f
  | .answered f _ => some f

namespace Call

variable {α β : Type}

/-- The call does what the actions of a system do: a free call takes the first step of some action,
and a call with a flight takes the step that resumes it. -/
def Follows : Call α → Stage → Prop
  | .finished _, .free => True
  | .atomic step next, .free => ∃ a : Action, ∀ (on : Conditions) (s : System),
    (s.step on a).1.replica = (step on s.replica).1 ∧
      ((s.step on a).1.flights = s.flights ∧ (next (step on s.replica).2).Follows .free ∨
        ∃ f, (s.step on a).1.flights = s.flights ++ [f] ∧
          (next (step on s.replica).2).Follows (.holding f))
  | .script _ next, .holding f => ∀ run, (next run).Follows (.answered f run)
  | .atomic step next, .holding f => ∃ run, ∀ on r,
    (step on r).1 = (((Host.sequential on fun _ ↦ run).complete (.waiting f.pending)).run r).2 ∧
      (next (step on r).2).Follows .free
  | .atomic step next, .answered f run => ∀ on r,
    (step on r).1 = (((Host.sequential on fun _ ↦ run).complete (.waiting f.pending)).run r).2 ∧
      (next (step on r).2).Follows .free
  | _, _ => False

theorem Follows.andThen {c : Call α} {stage : Stage} (h : c.Follows stage) {k : α → Call β}
    (hk : ∀ answer, (k answer).Follows .free) : (c.andThen k).Follows stage := by
  induction c generalizing stage with
  | finished answer =>
    cases stage with
    | free => exact hk answer
    | _ => exact h.elim
  | atomic step next ih =>
    cases stage with
    | free =>
      obtain ⟨a, ha⟩ := h
      refine ⟨a, fun on s ↦ ⟨(ha on s).1, ?_⟩⟩
      rcases (ha on s).2 with ⟨hflights, hnext⟩ | ⟨f, hflights, hnext⟩
      · exact .inl ⟨hflights, ih _ hnext⟩
      · exact .inr ⟨f, hflights, ih _ hnext⟩
    | holding f =>
      obtain ⟨run, hrun⟩ := h
      exact ⟨run, fun on r ↦ ⟨(hrun on r).1, ih _ (hrun on r).2⟩⟩
    | answered f run => exact fun on r ↦ ⟨(h on r).1, ih _ (h on r).2⟩
  | script request next ih =>
    cases stage with
    | holding f => exact fun run ↦ ih run (h run)
    | _ => exact h.elim

theorem follows_complete (f : Flight) :
    (host.complete (.waiting f.pending)).Follows (.holding f) := by
  obtain ⟨x, c, plan, limit⟩ := f
  cases plan with
  | settled resolution =>
    exact ⟨⟨⟨0⟩, .ok .noResult⟩, fun on r ↦ ⟨rfl, trivial⟩⟩
  | ask request => exact fun run on r ↦ ⟨rfl, trivial⟩

theorem follows_begin {document : String} {x : Option Version}
    {step : Conditions → Replica → Replica × Progress} (a : Action)
    (ha : ∀ on (s : System), s.step on a = s.begin document x (step on s.replica)) :
    (Call.atomic step host.complete).Follows .free := by
  refine ⟨a, fun on s ↦ ?_⟩
  rw [ha]
  obtain ⟨r, progress⟩ := step on s.replica
  cases progress with
  | done result => exact ⟨rfl, .inl ⟨rfl, trivial⟩⟩
  | waiting p => exact ⟨rfl, .inr ⟨⟨x, p⟩, rfl, follows_complete ⟨x, p⟩⟩⟩

theorem follows_receive (v : Version) : (host.receive v).Follows .free :=
  follows_begin (.receive v) fun _ _ ↦ rfl

theorem follows_receiveWire (raw : WireVersion) : (host.receiveWire raw).Follows .free :=
  follows_begin (.deliver (.ok raw)) fun _ _ ↦ rfl

theorem follows_receiveDelivery (d : Delivery) : (host.receiveDelivery d).Follows .free := by
  have hd : (Call.atomic (fun on r ↦ r.receiveDelivery on d) host.complete).Follows .free :=
    follows_begin (.deliver d) fun _ _ ↦ rfl
  refine hd.andThen fun answer ↦ ?_
  cases answer <;> exact trivial

theorem follows_receiveAll (source : NodeId) (slots : List Delivery) :
    (host.receiveAll source slots).Follows .free := by
  have hslots : ∀ done, (List.mapM.loop host.receiveDelivery slots done).Follows .free := by
    induction slots with
    | nil => exact fun _ ↦ trivial
    | cons d slots ih => exact fun done ↦ (follows_receiveDelivery d).andThen fun o ↦ ih (o :: done)
  exact (hslots []).andThen fun _ ↦ trivial

theorem follows_resolvePending (id : String) : (host.resolvePending id).Follows .free := by
  refine ⟨.resolve id, fun on s ↦ ?_⟩
  simp only [System.step]
  obtain ⟨r, progress⟩ := s.replica.resolvePending on id
  rcases progress with _ | result | p
  · exact ⟨rfl, .inl ⟨rfl, trivial⟩⟩
  · exact ⟨rfl, .inl ⟨rfl, trivial⟩⟩
  · exact ⟨rfl, .inr ⟨⟨none, p⟩, rfl, (follows_complete ⟨none, p⟩).andThen fun _ ↦ trivial⟩⟩

theorem follows_resolveEach (ids : List String) : (host.resolveEach ids).Follows .free := by
  induction ids with
  | nil => exact trivial
  | cons id ids ih =>
    refine (follows_resolvePending id).andThen fun answer ↦ ?_
    rcases answer with e | _ | outcome
    · exact trivial
    · exact ih
    · exact ih.andThen fun _ ↦ trivial

theorem Entry.follows {c : Call α} (h : c.Entry) : c.Follows .free := by
  cases h with
  | receive v => exact follows_receive v
  | receiveWire raw => exact follows_receiveWire raw
  | receiveAll source slots => exact follows_receiveAll source slots
  | resolvePending id => exact follows_resolvePending id
  | resolveAll =>
    exact ⟨.look, fun on s ↦ ⟨rfl, .inl ⟨rfl, follows_resolveEach _⟩⟩⟩
  | write id collection payload =>
    exact ⟨.write id collection payload, fun on s ↦ ⟨rfl, .inl ⟨rfl, trivial⟩⟩⟩
  | setPolicy p => exact ⟨.setPolicy p, fun on s ↦ ⟨rfl, .inl ⟨rfl, trivial⟩⟩⟩
  | read id => exact ⟨.look, fun on s ↦ ⟨rfl, .inl ⟨rfl, trivial⟩⟩⟩

end Call

/-! ## Pools and systems -/

namespace Pool

/-- Calls, and where they stand. -/
abbrev Staged := List ((Σ α : Type, Call α) × Stage)

/-- The flights that the calls hold. -/
def held (staged : Staged) : List Flight := staged.filterMap (·.2.flight?)

theorem held_perm (before after : Staged) (c : Σ α : Type, Call α) (stage : Stage) :
    (held (before ++ (c, stage) :: after)).Perm
      (stage.flight?.toList ++ held (before ++ after)) := by
  have hcons : held ((c, stage) :: after) = stage.flight?.toList ++ held after := by
    rw [held, List.filterMap_cons]
    cases stage.flight? <;> rfl
  rw [held, List.filterMap_append, held, List.filterMap_append, ← List.append_assoc]
  change (held before ++ held ((c, stage) :: after)).Perm _
  rw [hcons, ← List.append_assoc]
  exact List.perm_append_comm.append_right _

/-- A pool and a system in the same state: every call stands somewhere, and the flights of the
system are those that the calls hold. -/
structure Matches (p : Pool) (s : System) : Prop where
  replica : p.replica = s.replica
  calls : ∃ staged : Staged, staged.map (·.1) = p.calls ∧ (∀ c ∈ staged, c.1.2.Follows c.2) ∧
    (held staged).Perm s.flights

variable {p p' : Pool} {s : System}

theorem exists_resume {f : Flight} {rest flights : List Flight} (h : (f :: rest).Perm flights) :
    ∃ i, flights[i]? = some f ∧ rest.Perm (flights.eraseIdx i) := by
  obtain ⟨i, hi, hf⟩ := List.getElem_of_mem (h.mem_iff.1 List.mem_cons_self)
  refine ⟨i, List.getElem?_eq_some_iff.2 ⟨hi, hf⟩, ?_⟩
  have hperm := h.trans (List.getElem_cons_eraseIdx_perm hi).symm
  rw [hf] at hperm
  exact hperm.cons_inv

/-- A pool in which one call has gone on matches a system that has the flights of all calls. -/
theorem matches_of_middle {before after : Staged} {c : Σ α : Type, Call α} (stage : Stage)
    (hothers : ∀ x ∈ before ++ after, x.1.2.Follows x.2) (hc : c.2.Follows stage)
    (hperm : (stage.flight?.toList ++ held (before ++ after)).Perm s.flights) :
    Matches ⟨s.replica, before.map (·.1) ++ c :: after.map (·.1)⟩ s := by
  refine ⟨rfl, before ++ (c, stage) :: after, by simp, fun x hx ↦ ?_,
    (held_perm before after c stage).trans hperm⟩
  rcases List.mem_append.1 hx with hx | hx
  · exact hothers x (List.mem_append_left _ hx)
  · rcases List.mem_cons.1 hx with rfl | hx
    · exact hc
    · exact hothers x (List.mem_append_right _ hx)

theorem Matches.middle {r : Replica} {before after : List (Σ α : Type, Call α)}
    {c : Σ α : Type, Call α} (h : Matches ⟨r, before ++ c :: after⟩ s) :
    ∃ (pre post : Staged) (stage : Stage),
      pre.map (·.1) = before ∧ post.map (·.1) = after ∧ c.2.Follows stage ∧
      (∀ x ∈ pre ++ post, x.1.2.Follows x.2) ∧
      (stage.flight?.toList ++ held (pre ++ post)).Perm s.flights := by
  obtain ⟨-, staged, hcalls, hfollows, hperm⟩ := h
  obtain ⟨pre, rest, rfl, hpre, hrest⟩ := List.map_eq_append_iff.1 hcalls
  obtain ⟨⟨c, stage⟩, post, rfl, rfl, hpost⟩ := List.map_eq_cons_iff.1 hrest
  refine ⟨pre, post, stage, hpre, hpost, hfollows (c, stage) (by simp), fun x hx ↦ ?_,
    (held_perm pre post c stage).symm.trans hperm⟩
  rcases List.mem_append.1 hx with hx | hx
  · exact hfollows x (List.mem_append_left _ hx)
  · exact hfollows x (List.mem_append_right _ (List.mem_cons_of_mem _ hx))

theorem exists_matches_resume {on : Conditions} {before after : Staged} {α : Type} {f : Flight}
    {r' : Replica} {c : Call α} (run : Script.Run)
    (hr' : r' = (((Host.sequential on fun _ ↦ run).complete (.waiting f.pending)).run s.replica).2)
    (hc : c.Follows .free) (hothers : ∀ x ∈ before ++ after, x.1.2.Follows x.2)
    (hperm : (f :: held (before ++ after)).Perm s.flights) :
    ∃ steps, Matches ⟨r', before.map (·.1) ++ ⟨α, c⟩ :: after.map (·.1)⟩ (s.run steps) := by
  obtain ⟨i, hi, hrest⟩ := exists_resume hperm
  have hstep : (s.step on (.resume i run)).1 = ⟨r', s.flights.eraseIdx i⟩ := by
    rw [hr', System.step, hi]
    rfl
  refine ⟨[(on, .resume i run)], ?_⟩
  rw [System.run, System.run, hstep]
  exact matches_of_middle (s := ⟨r', s.flights.eraseIdx i⟩) .free hothers hc hrest

/-- One step of a pool is at most one action of the system. -/
theorem Step.matches (h : p.Step p') (hs : p.Matches s) : ∃ steps, p'.Matches (s.run steps) := by
  cases h with
  | @start _ _ α call entry =>
    obtain ⟨rfl, staged, rfl, hfollows, hperm⟩ := hs
    refine ⟨[], rfl, staged ++ [(⟨α, call⟩, .free)], by simp, fun x hx ↦ ?_, ?_⟩
    · rcases List.mem_append.1 hx with hx | hx
      · exact hfollows x hx
      · obtain rfl := List.mem_singleton.1 hx
        exact entry.follows
    · refine (held_perm staged [] _ .free).trans ?_
      rw [List.append_nil]
      exact hperm
  | atomic on step next =>
    obtain rfl := hs.replica
    obtain ⟨pre, post, stage, rfl, rfl, hc, hothers, hperm⟩ := hs.middle
    cases stage with
    | free =>
      -- The step may hand a flight to the call, which the system has then as its last one.
      obtain ⟨a, ha⟩ := hc
      obtain ⟨hreplica, hnext⟩ := ha on s
      refine ⟨[(on, a)], ?_⟩
      rw [System.run, System.run, ← hreplica]
      rcases hnext with ⟨hflights, hnext⟩ | ⟨f, hflights, hnext⟩
      · exact matches_of_middle .free hothers hnext (hflights ▸ hperm)
      · refine matches_of_middle (.holding f) hothers hnext ?_
        rw [hflights]
        exact List.perm_append_comm.trans (hperm.append_right [f])
    | holding f =>
      obtain ⟨run, hrun⟩ := hc
      exact exists_matches_resume run (hrun on s.replica).1 (hrun on s.replica).2 hothers hperm
    | answered f run =>
      exact exists_matches_resume run (hc on s.replica).1 (hc on s.replica).2 hothers hperm
  | script request next run =>
    obtain rfl := hs.replica
    obtain ⟨pre, post, stage, rfl, rfl, hc, hothers, hperm⟩ := hs.middle
    cases stage with
    | holding f => exact ⟨[], matches_of_middle (.answered f run) hothers (hc run) hperm⟩
    | _ => exact hc.elim

/-- Every state that overlapping calls reach is the state of a run of a system. -/
theorem Reachable.exists_run {node : NodeId} {policy : Policy} {limit : Span}
    (h : Reachable node policy limit p) :
    ∃ steps, p.replica = ((System.fresh node policy limit).run steps).replica := by
  have hmatches : ∃ steps, p.Matches ((System.fresh node policy limit).run steps) := by
    induction h with
    | refl => exact ⟨[], rfl, [], rfl, by simp, .refl _⟩
    | tail _ step ih =>
      obtain ⟨pre, hpre⟩ := ih
      obtain ⟨post, hpost⟩ := step.matches hpre
      exact ⟨pre ++ post, by rwa [System.run_append]⟩
  obtain ⟨steps, hsteps⟩ := hmatches
  exact ⟨steps, hsteps.replica⟩

theorem Reachable.consistent {node : NodeId} {policy : Policy} {limit : Span}
    (h : Reachable node policy limit p) : p.replica.Consistent := by
  obtain ⟨steps, hsteps⟩ := h.exists_run
  rw [hsteps]
  exact (System.run_valid (System.fresh_valid node policy limit) steps).consistent

end Pool

end CausalReplica
