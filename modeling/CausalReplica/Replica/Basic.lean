import CausalReplica.Conflict.Registry
import CausalReplica.History
import CausalReplica.Outcome
import CausalReplica.Store
import CausalReplica.Tally
import CausalReplica.Version.Wire

/-!
# Replicas

A replica keeps the current versions of documents, the open conflicts between versions, the last
attempts to resolve them, and a tally. An open conflict of a document takes precedence over its
stored version, which stays as it was before the conflict.
-/

namespace CausalReplica

/-- Why a call on a replica fails. -/
inductive ReplicaError where
  | malformed (error : VersionError)
  /-- The document has an open conflict. -/
  | conflict (conflict : Conflict)
  | store (error : StoreError)
  | vector (error : VectorError)
  /-- A conflict was not fit to be recorded. -/
  | invariant (reason : String)
  | internal (reason : String)

namespace ReplicaError

/-- The error of a conflict that cannot be built or recorded. -/
def ofFault (fault : ConflictFault) : ReplicaError := .invariant fault.message

/-- The error where no verdict is reached. -/
def ofVerdictFault (fault : VerdictFault) : ReplicaError := .invariant fault.message

def conflictMessage (c : Conflict) : String :=
  "document " ++ c.id ++ " has " ++ toString c.size ++ " conflicting versions"

def message : ReplicaError → String
  | .malformed error => "Malformed item: " ++ error.message
  | .conflict c => "Conflict: " ++ conflictMessage c
  | .store error => "Storage error: " ++ error.message
  | .vector error => "Change vector error: " ++ error.message
  | .invariant reason => "Invariant violation: " ++ reason
  | .internal reason => "Internal error: " ++ reason

end ReplicaError

/-- The state of a replica. -/
structure Replica where
  node : NodeId
  policy : Policy
  /-- How long a script may run. -/
  limit : Span
  store : Store
  registry : Registry
  history : History
  tally : Tally

/-- What a step of a replica meets: the time, and the calls of its store that fail. -/
structure Conditions where
  now : Timestamp
  faults : StoreFaults

namespace Replica

/-- How long a script may run unless something else is said. -/
def defaultLimit : Span := .ofSeconds 5

/-- A replica that knows no document. -/
def fresh (node : NodeId) (policy : Policy) (limit : Span) : Replica :=
  ⟨node, policy, limit, .empty, .empty, .empty, .zero⟩

/-- One more of what `c` counts. -/
def tick (r : Replica) (c : Counter) : Replica := { r with tally := r.tally.increment c }

def setPolicy (r : Replica) (p : Policy) : Replica := { r with policy := p }

/-- What is known of a document: its open conflict, or else its stored version. -/
def known (on : Conditions) (r : Replica) (id : String) : Except ReplicaError Known :=
  match r.registry.get? id with
  | some c => .ok (.conflicted c)
  | none => (on.faults.get? r.store id).mapError .store |>.map .clean

/-- The replica with a version stored. -/
def stored (on : Conditions) (r : Replica) (v : Version) : Except ReplicaError Replica :=
  match on.faults.guardWrite v (r.store.write v) with
  | .ok store => .ok { r with store := store }
  | .error e => .error (.store e)

/-! ## Looking -/

/-- The live document under an id. An open conflict is an error that carries its members. -/
def read (on : Conditions) (r : Replica) (id : String) : Except ReplicaError (Option Version) :=
  match r.registry.get? id with
  | some c => .error (.conflict ⟨id, c.members⟩)
  | none => (on.faults.get? r.store id).mapError .store |>.map (·.filter (!·.tombstone))

/-- The vectors of the open conflict of a document, none if there is none. -/
def conflictVectors (r : Replica) (id : String) : List VersionVector :=
  match r.registry.get? id with
  | some c => c.members.map (·.vector)
  | none => []

/-- The ids of the deleted documents. -/
def tombstones (on : Conditions) (r : Replica) : Except ReplicaError (List String) :=
  (on.faults.tombstones r.store).mapError .store

def overview (r : Replica) : Overview := r.history.overview r.registry.all

end Replica

end CausalReplica
