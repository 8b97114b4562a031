import CausalReplica.Version.Basic

/-!
# Versions on the wire

A version from another node is checked before it touches any state: first its vector, then the rest.
A version without an origin gets that of its vector.
-/

namespace CausalReplica

/-- A version as it arrives. -/
structure WireVersion where
  id : String
  collection : String
  payload : Bytes
  tombstone : Bool
  vector : List WireEntry
  modified : Timestamp
  origin : Option NodeId
  deriving DecidableEq

namespace Version

/-- The version that a wire form stands for. -/
def ofWire (raw : WireVersion) : Except VersionError Version := do
  let vector ← (VersionVector.ofWire raw.vector).mapError .vector
  let version : Version := ⟨raw.id, raw.collection, raw.payload, raw.tombstone, vector,
    raw.modified, raw.origin.getD vector.origin⟩
  version.check
  return version

def toWire (v : Version) : WireVersion :=
  ⟨v.id, v.collection, v.payload, v.tombstone, v.vector.toWire, v.modified, some v.origin⟩

end Version

end CausalReplica
