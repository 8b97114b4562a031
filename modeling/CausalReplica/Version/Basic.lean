import CausalReplica.VersionVector.Merge
import CausalReplica.VersionVector.Encoding
import CausalReplica.VersionVector.Wire

/-!
# Versions of documents

A version is one state of a document: either its payload or a tombstone that says that the document
was deleted. The version vector tells what the version has seen; the time of the last change and the
node it comes from only break ties between concurrent versions.
-/

namespace CausalReplica

/-- Milliseconds since the epoch. -/
abbrev Timestamp := UInt64

/-- A state of a document. -/
structure Version where
  id : String
  collection : String
  payload : Bytes
  tombstone : Bool
  vector : VersionVector
  modified : Timestamp
  origin : NodeId
  deriving DecidableEq

/-- What is wrong with a version. -/
inductive VersionError where
  | emptyId
  | tombstoneWithPayload (id : String)
  | vector (error : VectorError)
  deriving DecidableEq

def VersionError.message : VersionError → String
  | .emptyId => "document id is empty"
  | .tombstoneWithPayload id => "tombstone for " ++ id ++ " carries a payload"
  | .vector error => "invalid change vector: " ++ error.message

namespace VersionVector

/-- The node whose write a vector stands for: that of its highest entry. -/
def origin (v : VersionVector) : NodeId :=
  match v.highest? with
  | some e => e.1
  | none => .zero

end VersionVector

namespace Version

/-- A document with a payload. -/
def document (id collection : String) (payload : Bytes) (vector : VersionVector)
    (modified : Timestamp) : Version :=
  ⟨id, collection, payload, false, vector, modified, vector.origin⟩

/-- A deleted document. -/
def deleted (id collection : String) (vector : VersionVector) (modified : Timestamp) : Version :=
  ⟨id, collection, [], true, vector, modified, vector.origin⟩

/-- How version `a` stands to version `b`. -/
def relate (a b : Version) : Causality := a.vector.relate b.vector

/-- The first thing that is wrong with a version. -/
def check (v : Version) : Except VersionError Unit :=
  if v.id = "" then .error .emptyId
  else if v.tombstone && !v.payload.isEmpty then .error (.tombstoneWithPayload v.id)
  else if v.vector.isEmpty then .error (.vector .empty)
  else .ok ()

/-- The same version with another vector. -/
def withVector (v : Version) (vector : VersionVector) : Version := { v with vector := vector }

/-! ## Orders -/

/-- The order in which the members of a conflict are listed: by vector, tombstones first, then by
time, collection and payload. -/
def canonicalOrder : Version → Version → Ordering := fun a b ↦
  (a.vector.canonicalOrder b.vector).then <|
  (compare b.tombstone a.tombstone).then <|
  (compare a.modified b.modified).then <|
  (compare a.collection b.collection).then <|
  compare a.payload b.payload

/-- The order in which the greatest version is the latest: by time, origin, tombstone, payload and
collection. -/
def latestOrder : Version → Version → Ordering := fun a b ↦
  (compare a.modified b.modified).then <|
  (compare a.origin b.origin).then <|
  (compare a.tombstone b.tombstone).then <|
  (compare a.payload b.payload).then <|
  compare a.collection b.collection

/-- The greatest version in latest order; of equal ones the last. -/
def latest? (vs : List Version) : Option Version :=
  vs.foldl (fun best v ↦
    match best with
    | some b => if (latestOrder b v).isLE then some v else some b
    | none => some v) none

end Version

end CausalReplica
