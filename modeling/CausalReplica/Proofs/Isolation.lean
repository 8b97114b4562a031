import CausalReplica.Proofs.Locality

/-!
# Documents do not interfere

In a run calls on a replica are made one after the other, each at its own time. The faults of the
store depend on the document only, and the run of a script on its request only. What such a run
answers to the calls on one document, and what it leaves of the document, is decided by these calls
and by the policies that are set between them: all other calls can be left out of the run.

So two runs in which the calls on a document are the same agree on this document, whatever calls on
other documents are made in between. How many locks there are does not come into it, since a lock is
no part of the state: two documents under one lock wait for each other, and nothing else.
-/

namespace CausalReplica

/-- A call on a replica. -/
inductive Operation where
  | receive (v : Version)
  | receiveWire (raw : WireVersion)
  /-- A document is written, or deleted where there is no payload. -/
  | write (id collection : String) (payload : Option Bytes)
  | resolve (id : String)
  | read (id : String)
  | setPolicy (p : Policy)

/-- What a call answers. -/
inductive Reply where
  | ended (result : Except ReplicaError Outcome)
  | wrote (result : Except ReplicaError Version)
  | resolved (result : Except ReplicaError (Option Outcome))
  | found (result : Except ReplicaError (Option Version))
  | done

namespace Operation

/-- The document that a call names. -/
def document? : Operation → Option String
  | .receive v => some v.id
  | .receiveWire raw => some raw.id
  | .write id _ _ => some id
  | .resolve id => some id
  | .read id => some id
  | .setPolicy _ => none

/-- The call names the document, or it sets the policy for all documents. -/
def concerns (d : String) (op : Operation) : Bool := op.document?.all (· = d)

/-- The answer of a call that no other call interrupts, and the replica after it. -/
def perform (on : Conditions) (script : Script.Request → Script.Run) (r : Replica) :
    Operation → Reply × Replica
  | .receive v => (((Host.sequential on script).receive v).run r).map .ended id
  | .receiveWire raw => (((Host.sequential on script).receiveWire raw).run r).map .ended id
  | .write document collection payload =>
    (r.write on document collection payload).swap.map .wrote id
  | .resolve document =>
    (((Host.sequential on script).resolvePending document).run r).map .resolved id
  | .read document => (.found (r.read on document), r)
  | .setPolicy p => (.done, r.setPolicy p)

/-- The answers of calls that are made one after the other, and the replica after them. -/
def performAll (faults : StoreFaults) (script : Script.Request → Script.Run) (r : Replica) :
    List (Timestamp × Operation) → List (Operation × Reply) × Replica
  | [] => ([], r)
  | (now, op) :: rest =>
    let first := op.perform ⟨now, faults⟩ script r
    let others := performAll faults script first.2 rest
    ((op, first.1) :: others.1, others.2)

theorem document_eq_of_concerns {op : Operation} {d document : String}
    (h : op.concerns d = true) (hdocument : op.document? = some document) : document = d := by
  rw [concerns, hdocument] at h
  exact of_decide_eq_true h

theorem ne_document_of_not_concerns {op : Operation} {d document : String}
    (h : op.concerns d = false) (hdocument : op.document? = some document) : d ≠ document := by
  rw [concerns, hdocument] at h
  exact Ne.symm (of_decide_eq_false h)

end Operation

namespace Replica

variable {a b r : Replica} {on on' : Conditions} {script : Script.Request → Script.Run}
  {d document : String} {op : Operation}

theorem AgreeOut.map {α β : Type} {x y : α × Replica} (h : AgreeOut d x y) (f : α → β) :
    AgreeOut d (x.map f id) (y.map f id) := ⟨congrArg f h.answer, h.state⟩

/-! ## One call -/

theorem exists_run_complete (on : Conditions) (script : Script.Request → Script.Run)
    (p : Pending) : ∃ run, (Host.sequential on script).complete (.waiting p) =
      (Host.sequential on fun _ ↦ run).complete (.waiting p) := by
  obtain ⟨c, plan, limit⟩ := p
  cases plan with
  | settled resolution => exact ⟨⟨⟨0⟩, .ok .noResult⟩, rfl⟩
  | ask request => exact ⟨script request, rfl⟩

theorem Begins.consistent_complete {x : Option Version} {out : Replica × Progress}
    (h : Begins on r document x out) (hr : r.Consistent)
    (script : Script.Request → Script.Run) :
    (((Host.sequential on script).complete out.2).run out.1).2.Consistent := by
  have hout := h.consistent hr
  cases h with
  | done ends knows => exact hout
  | waiting advance sound id recorded mem =>
    rename_i r' p
    obtain ⟨run, hrun⟩ := exists_run_complete on script p
    rw [hrun]
    obtain ⟨written, advance'⟩ := (complete_ends on hout sound run).advance
    exact advance'.consistent hout

theorem resolvePending_consistent (on : Conditions) (script : Script.Request → Script.Run)
    (hr : r.Consistent) :
    (((Host.sequential on script).resolvePending document).run r).2.Consistent := by
  cases hget : r.registry.get? document with
  | none =>
    rw [run_resolvePending_of_clean on script hget]
    exact hr
  | some c =>
    obtain ⟨rfl, hsound, v, hv, -⟩ := hr.recorded document c hget
    have covers : ∀ w ∈ r.knownVersions c.id, ∃ m ∈ c.members, w.vector ≤ m.vector := by
      intro w hw
      rw [knownVersions_of_recorded hget] at hw
      exact ⟨w, hw, le_rfl⟩
    have begins : Begins on r c.id none (settle on r c) :=
      settle_begins hsound covers (Option.isSome_of_eq_some hv) (by simp)
    rw [run_resolvePending on script hget]
    exact begins.consistent_complete hr script

theorem perform_consistent (on : Conditions) (script : Script.Request → Script.Run)
    (hr : r.Consistent) (op : Operation) : (op.perform on script r).2.Consistent := by
  cases op with
  | receive v => exact (receive_begins on hr v).consistent_complete hr script
  | receiveWire raw => exact (receiveWire_begins on hr raw).consistent_complete hr script
  | write document collection payload =>
    have writes := write_writes on r document collection payload
    rw [Operation.perform]
    generalize r.write on document collection payload = out at writes
    cases writes with
    | written base v advance => exact advance.consistent hr
    | failed expected => exact hr
  | resolve document => exact resolvePending_consistent on script hr
  | read document => exact hr
  | setPolicy p => exact hr.congr rfl rfl

theorem perform_elsewhere (on : Conditions) (script : Script.Request → Script.Run)
    (hr : r.Consistent) (h : op.concerns d = false) : r.Agree d (op.perform on script r).2 := by
  cases op with
  | setPolicy p => cases h
  | receive v => exact receive_elsewhere hr (Operation.ne_document_of_not_concerns h rfl)
  | receiveWire raw => exact receiveWire_elsewhere hr (Operation.ne_document_of_not_concerns h rfl)
  | write document collection payload =>
    exact write_elsewhere on r collection payload (Operation.ne_document_of_not_concerns h rfl)
  | resolve document =>
    exact resolvePending_elsewhere hr (Operation.ne_document_of_not_concerns h rfl)
  | read document => exact .refl d r

/-- A call answers the same at replicas that agree on its document, and they agree on it then. -/
theorem perform_agree (script : Script.Request → Script.Run) (ha : a.Consistent)
    (h : op.concerns d = true) (hon : on.Agree d on') (hab : a.Agree d b) :
    AgreeOut d (op.perform on script a) (op.perform on' script b) := by
  cases op with
  | receive v =>
    obtain rfl := Operation.document_eq_of_concerns h rfl
    exact (receive_agree ha hon hab).map Reply.ended
  | receiveWire raw =>
    obtain rfl := Operation.document_eq_of_concerns h rfl
    exact (receiveWire_agree ha hon hab).map Reply.ended
  | write document collection payload =>
    obtain rfl := Operation.document_eq_of_concerns h rfl
    exact (write_agree hon hab collection payload).map Reply.wrote
  | resolve document =>
    obtain rfl := Operation.document_eq_of_concerns h rfl
    exact (resolvePending_agree ha hon hab).map Reply.resolved
  | read document =>
    obtain rfl := Operation.document_eq_of_concerns h rfl
    exact ⟨congrArg Reply.found (hab.read hon), hab⟩
  | setPolicy p =>
    refine ⟨rfl, ?_, hab.kept⟩
    change (b.node, p, b.limit) = (a.node, p, a.limit)
    rw [hab.node, hab.limit]

/-! ## Runs -/

/-- All calls that do not concern a document can be left out, as far as the document goes. -/
theorem performAll_agree {faults faults' : StoreFaults} (script : Script.Request → Script.Run)
    (hread : faults'.read d = faults.read d) (hwrite : faults'.write d = faults.write d)
    (ha : a.Consistent) (hab : a.Agree d b) (ops : List (Timestamp × Operation)) :
    let out := Operation.performAll faults script a ops
    let out' := Operation.performAll faults' script b (ops.filter (·.2.concerns d))
    out'.1 = out.1.filter (·.1.concerns d) ∧ out.2.Agree d out'.2 := by
  induction ops generalizing a b with
  | nil => exact ⟨rfl, hab⟩
  | cons step ops ih =>
    obtain ⟨now, op⟩ := step
    have hon : Conditions.Agree d ⟨now, faults⟩ ⟨now, faults'⟩ := ⟨rfl, hread, hwrite⟩
    have hconsistent := perform_consistent ⟨now, faults⟩ script ha op
    cases hop : op.concerns d with
    | true =>
      have hagree := perform_agree script ha hop hon hab
      obtain ⟨hlog, hend⟩ := ih hconsistent hagree.state
      have hkeep : ((now, op) :: ops).filter (·.2.concerns d) =
          (now, op) :: ops.filter (·.2.concerns d) := List.filter_cons_of_pos hop
      rw [hkeep]
      refine ⟨?_, hend⟩
      simp only [Operation.performAll]
      rw [hlog, hagree.answer, List.filter_cons]
      exact (if_pos hop).symm
    | false =>
      -- Only the one replica makes this call, and it leaves the document alone.
      have hstate := perform_elsewhere ⟨now, faults⟩ script ha hop
      obtain ⟨hlog, hend⟩ := ih hconsistent (hstate.symm.trans hab)
      have hdrop : ((now, op) :: ops).filter (·.2.concerns d) = ops.filter (·.2.concerns d) :=
        List.filter_cons_of_neg (by simp [hop])
      rw [hdrop]
      refine ⟨?_, hend⟩
      simp only [Operation.performAll]
      rw [hlog]
      exact (List.filter_cons_of_neg (by simp [hop])).symm

/-- Two runs that start at a fresh replica agree on a document, if the calls that name it and the
policies that are set are the same, at the same times: they end with the same stored version and the
same open conflict of it, and the calls on it have the same answers. The faults of the two stores
need to be the same for this document only. -/
theorem documents_do_not_interfere (node : NodeId) (policy : Policy) (limit : Span)
    (script : Script.Request → Script.Run) {d : String} {faults faults' : StoreFaults}
    (hread : faults'.read d = faults.read d) (hwrite : faults'.write d = faults.write d)
    {ops ops' : List (Timestamp × Operation)}
    (h : ops'.filter (·.2.concerns d) = ops.filter (·.2.concerns d)) :
    let out := Operation.performAll faults script (fresh node policy limit) ops
    let out' := Operation.performAll faults' script (fresh node policy limit) ops'
    out'.2.store.get? d = out.2.store.get? d ∧ out'.2.registry.get? d = out.2.registry.get? d ∧
      out'.1.filter (·.1.concerns d) = out.1.filter (·.1.concerns d) := by
  intro out out'
  have hfresh := fresh_consistent node policy limit
  -- Both runs agree with the one in which all other calls are left out.
  obtain ⟨hlog, hend⟩ := performAll_agree script rfl rfl hfresh (.refl d _) ops
  obtain ⟨hlog', hend'⟩ := performAll_agree script hread.symm hwrite.symm hfresh (.refl d _) ops'
  rw [h] at hlog' hend'
  have hagree : out.2.Agree d out'.2 := hend.trans hend'.symm
  exact ⟨hagree.store, hagree.registry, hlog'.symm.trans hlog⟩

/-- Two versions of a document that nobody has seen together. -/
def quietRun : List (Timestamp × Operation) :=
  [(1, .receive (.document "a" "notes" [1] (.authored ⟨1⟩) 1)),
    (3, .receive (.document "a" "notes" [2] (.authored ⟨2⟩) 2)), (6, .read "a")]

/-- The same, while another document arrives and cannot be written. -/
def busyRun : List (Timestamp × Operation) :=
  [(1, .receive (.document "a" "notes" [1] (.authored ⟨1⟩) 1)),
    (2, .receive (.document "b" "notes" [1] (.authored ⟨1⟩) 1)),
    (3, .receive (.document "a" "notes" [2] (.authored ⟨2⟩) 2)),
    (4, .write "b" "notes" (some [3])), (5, .resolve "b"), (6, .read "a")]

theorem documents_do_not_interfere_busy :
    let script : Script.Request → Script.Run := fun _ ↦ ⟨⟨0⟩, .ok .noResult⟩
    let quiet := Operation.performAll .none script (fresh ⟨9⟩ .none defaultLimit) quietRun
    let busy := Operation.performAll (.failing ["b"] [] false) script (fresh ⟨9⟩ .none defaultLimit)
      busyRun
    busyRun.filter (·.2.concerns "a") = quietRun ∧ (quiet.2.registry.get? "a").isSome ∧
      busy.2.registry.get? "a" = quiet.2.registry.get? "a" ∧
      busy.1.filter (·.1.concerns "a") = quiet.1.filter (·.1.concerns "a") := by
  intro script quiet busy
  have hops : busyRun.filter (·.2.concerns "a") = quietRun.filter (·.2.concerns "a") := rfl
  have hread : (StoreFaults.failing ["b"] [] false).read "a" = StoreFaults.none.read "a" := rfl
  have hwrite : (StoreFaults.failing ["b"] [] false).write "a" = StoreFaults.none.write "a" := rfl
  obtain ⟨-, hregistry, hlog⟩ :=
    documents_do_not_interfere ⟨9⟩ .none defaultLimit script hread hwrite hops
  exact ⟨rfl, rfl, hregistry, hlog⟩

end Replica

end CausalReplica
