import CausalReplica.Replica.Basic

/-!
# Atomic steps of a replica

A step sees the whole state and is not interrupted. Most calls are one step. A call that meets a
conflict under a script policy takes two: the first records the conflict, the second commits the
resolution, and only if the recorded conflict still has the same members. Between the two any other
steps may happen.

A step that fails still gives the state it leaves behind, with what was counted and recorded before
it failed.
-/

namespace CausalReplica

/-- A recorded conflict whose resolution is still to be found. -/
structure Pending where
  conflict : Conflict
  plan : Resolution.Plan
  /-- How long a script may run. -/
  limit : Span

/-- What the first step of a call comes to. -/
inductive Progress where
  | done (result : Except ReplicaError Outcome)
  | waiting (pending : Pending)

/-- A version in a batch that could not even be read. -/
structure Unreadable where
  id : String
  reason : String
  deriving DecidableEq

/-- A slot of a batch. -/
abbrev Delivery := Except Unreadable WireVersion

namespace Replica

/-! ## Resolving -/

/-- The replica after a resolution of `c`: the resolved version replaces the conflict, or the
conflict stays recorded. -/
def finish (on : Conditions) (r : Replica) (c : Conflict) :
    Resolution → Replica × Except ReplicaError Outcome
  | .resolved v =>
    match r.stored on v with
    | .error e => (r, .error e)
    | .ok r =>
      let r := { r with
        registry := r.registry.clear c.id
        history := r.history.record (c.collection?.getD "") (.resolved c.id v.tombstone on.now) }
      (r.tick .resolved, .ok (.resolved v.tombstone))
  | .unresolved reason =>
    match r.registry.record c with
    | .error fault => (r, .error (.ofFault fault))
    | .ok registry =>
      let r := { r with
        registry := registry
        history := r.history.record (c.collection?.getD "")
          (.unresolved c.id reason.message on.now) }
      let r := r.tick .unresolved
      (if reason.isScriptFailure then r.tick .scriptFailures else r,
        .ok (.conflicted c.size reason))

def timed (r : Replica) (time : Millis) : Replica := { r with tally := r.tally.observe time }

/-- The first step of resolving a conflict. Without scripts it is the only one. -/
def settle (on : Conditions) (r : Replica) (c : Conflict) : Replica × Progress :=
  match r.policy.usesScripts, Resolution.plan r.policy c with
  | false, .settled resolution =>
    let (r, result) := finish on (r.timed ⟨0⟩) c resolution
    (r, .done result)
  | _, plan =>
    match r.registry.record c with
    | .error fault => (r, .done (.error (.ofFault fault)))
    | .ok registry => ({ r with registry := registry }, .waiting ⟨c, plan, r.limit⟩)

/-- The recorded conflict of the same document has the same members as `c`. -/
def stillRecorded (r : Replica) (c : Conflict) : Bool :=
  match r.registry.get? c.id with
  | some current => current.fingerprint = c.fingerprint && current.sameMembers c
  | none => false

/-- The second step of resolving a conflict. A resolution of a conflict that has changed since is
dropped. -/
def commit (on : Conditions) (r : Replica) (c : Conflict) (resolution : Resolution)
    (time : Millis) : Replica × Except ReplicaError Outcome :=
  let r := r.timed time
  if r.stillRecorded c then finish on r c resolution
  else (r.tick .staleResults, .ok .superseded)

/-! ## Receiving -/

/-- What a verdict on a version of a document leads to. -/
def follow (on : Conditions) (r : Replica) (id : String) : Verdict → Replica × Progress
  | .accept winner =>
    match r.stored on winner with
    | .error e => (r, .done (.error e))
    | .ok r =>
      (({ r with registry := r.registry.clear id }).tick .accepted,
        .done (.ok (.accepted winner.tombstone)))
  | .reject reason => (r.tick .rejected, .done (.ok (.rejected reason)))
  | .conflict c => settle on (r.tick .detected) c

/-- The first step of processing a version that is fit to be processed. -/
def process (on : Conditions) (r : Replica) (v : Version) : Replica × Progress :=
  match r.known on v.id with
  | .error e => (r, .done (.error e))
  | .ok known =>
    match Verdict.attempt v known with
    | .error fault => (r, .done (.error (.ofVerdictFault fault)))
    | .ok verdict => r.follow on v.id verdict

/-- Something arrived that cannot be processed. -/
def malformed (r : Replica) (reason : String) : Replica × Outcome :=
  ((r.tick .received).tick .malformed, .malformed reason)

/-- The first step of a call that brings a version. -/
def receive (on : Conditions) (r : Replica) (v : Version) : Replica × Progress :=
  match v.check with
  | .error e =>
    let (r, outcome) := r.malformed e.message
    (r, .done (.ok outcome))
  | .ok () => process on (r.tick .received) v

/-- The first step of a call that brings the wire form of a version. -/
def receiveWire (on : Conditions) (r : Replica) (raw : WireVersion) : Replica × Progress :=
  match Version.ofWire raw with
  | .error e =>
    let (r, outcome) := r.malformed e.message
    (r, .done (.ok outcome))
  | .ok v => process on (r.tick .received) v

/-- The first step of a call for one slot of a batch. -/
def receiveDelivery (on : Conditions) (r : Replica) : Delivery → Replica × Progress
  | .ok raw => r.receiveWire on raw
  | .error unreadable =>
    let (r, outcome) := r.malformed unreadable.reason
    (r, .done (.ok outcome))

/-- The first step of resolving the open conflict of a document, if there is one. -/
def resolvePending (on : Conditions) (r : Replica) (id : String) : Replica × Option Progress :=
  match r.registry.get? id with
  | some c =>
    let (r, progress) := settle on r c
    (r, some progress)
  | none => (r, none)

/-! ## Writing -/

/-- The vector that a local write builds on: all that is known of the document. -/
def base (on : Conditions) (r : Replica) (id : String) : Except ReplicaError VersionVector :=
  match r.registry.get? id with
  | some c => .ok c.mergedVector
  | none =>
    match on.faults.get? r.store id with
    | .ok (some v) => .ok v.vector
    | .ok none => .ok .empty
    | .error e => .error (.store e)

/-- The version that a local write makes: a payload, or nothing for a deletion. -/
def draft (on : Conditions) (r : Replica) (id collection : String) (payload : Option Bytes) :
    Except ReplicaError Version := do
  let base ← r.base on id
  let vector ← (base.increment r.node).mapError .vector
  let v : Version := match payload with
    | some payload => .document id collection payload vector on.now
    | none => .deleted id collection vector on.now
  v.check.mapError .malformed
  return v

/-- Writes a document, or deletes it where there is no payload. An open conflict of the document is
thereby resolved. -/
def write (on : Conditions) (r : Replica) (id collection : String) (payload : Option Bytes) :
    Replica × Except ReplicaError Version :=
  match r.draft on id collection payload with
  | .error e => (r, .error e)
  | .ok v =>
    match r.stored on v with
    | .error e => (r, .error e)
    | .ok r =>
      match r.registry.get? id with
      | none => (r, .ok v)
      | some c =>
        ({ r with
          registry := r.registry.clear id
          history := r.history.record (c.collection?.getD collection)
            (.resolved id v.tombstone v.modified) }, .ok v)

end Replica

end CausalReplica
