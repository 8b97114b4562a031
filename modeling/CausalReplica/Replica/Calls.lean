import CausalReplica.Replica.Step

/-!
# Calls on a replica

A call is a sequence of atomic steps with the runs of scripts between them. It is written over a
host that says how a step gets at the state and how a script is run, so the same sequence is used
with overlapping calls, with scripts that take time, and on a plain state.
-/

namespace CausalReplica

universe u

/-- What a call needs: atomic steps on a replica, and runs of scripts outside them. -/
structure Host (m : Type → Type u) where
  atomic : {α : Type} → (Conditions → Replica → Replica × α) → m α
  run : Script.Request → m Script.Run

namespace Host

variable {m : Type → Type u} [Monad m] (h : Host m)

def millis (s : Span) : Millis := ⟨(Float.ofScientific s.nanos true 6).toBits⟩

/-- The resolution of a recorded conflict, and the time it takes to find. -/
def resolve (p : Pending) : m (Resolution × Millis) :=
  match p.plan with
  | .settled resolution => pure (resolution, ⟨0⟩)
  | .ask request => do
    let run ← h.run request
    return (Resolution.ofResult p.conflict request (run.within p.limit request.script),
      millis run.elapsed)

/-- The rest of a call after its first step. -/
def complete : Progress → m (Except ReplicaError Outcome)
  | .done result => pure result
  | .waiting p => do
    let (resolution, time) ← h.resolve p
    h.atomic fun on r ↦ r.commit on p.conflict resolution time

/-- Processes a version. -/
def receive (v : Version) : m (Except ReplicaError Outcome) := do
  h.complete (← h.atomic fun on r ↦ r.receive on v)

/-- Starts processing a version, up to the run of a script if it needs one. -/
def start (v : Version) : m Progress := do
  match ← h.atomic fun on r ↦ r.receive on v with
  | .waiting ⟨c, .settled resolution, limit⟩ =>
    return .done (← h.complete (.waiting ⟨c, .settled resolution, limit⟩))
  | progress => return progress

/-- Processes the wire form of a version. -/
def receiveWire (raw : WireVersion) : m (Except ReplicaError Outcome) := do
  h.complete (← h.atomic fun on r ↦ r.receiveWire on raw)

def slotId : Delivery → String
  | .ok raw => raw.id
  | .error unreadable => unreadable.id

/-- Processes one slot of a batch. A failure is an outcome of its slot only. -/
def receiveDelivery (d : Delivery) : m (String × Outcome) := do
  match ← h.complete (← h.atomic fun on r ↦ r.receiveDelivery on d) with
  | .ok outcome => return (slotId d, outcome)
  | .error e => return (slotId d, .failed e.message)

/-- Processes the slots of a batch one after the other. -/
def receiveAll (source : NodeId) (slots : List Delivery) : m Report := do
  return ⟨source, ← slots.mapM h.receiveDelivery⟩

/-- Resolves the open conflict of a document, if there is one. -/
def resolvePending (id : String) : m (Except ReplicaError (Option Outcome)) := do
  match ← h.atomic fun on r ↦ r.resolvePending on id with
  | none => return .ok none
  | some progress => return (← h.complete progress).map some

/-- Resolves the open conflicts of the given documents in turn, up to the first failure. -/
def resolveEach : List String → m (Except ReplicaError (List (String × Outcome)))
  | [] => return .ok []
  | id :: rest => do
    match ← h.resolvePending id with
    | .error e => return .error e
    | .ok none => resolveEach rest
    | .ok (some outcome) => return (← resolveEach rest).map ((id, outcome) :: ·)

/-- Resolves all conflicts that are open now, up to the first failure. -/
def resolveAll : m (Except ReplicaError (List (String × Outcome))) := do
  h.resolveEach (← h.atomic fun _ r ↦ (r, r.registry.ids))

end Host

/-- The host of calls that do not overlap: every step meets the same conditions, and a script's run
depends on its request alone. -/
def Host.sequential (on : Conditions) (script : Script.Request → Script.Run) :
    Host (StateM Replica) where
  atomic step := fun r ↦ let (r, a) := step on r; (a, r)
  run request := pure (script request)

end CausalReplica
