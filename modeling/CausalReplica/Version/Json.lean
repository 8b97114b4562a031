import CausalReplica.VersionVector.Json
import CausalReplica.Version.Wire

/-!
# JSON of versions

A version is a record in which the payload, the tombstone flag and the origin may be missing.
Reading a version validates its vector and nothing else.
-/

namespace CausalReplica

def Version.partNames : List String :=
  ["id", "collection", "payload", "tombstone", "change_vector", "last_modified", "origin"]

namespace Version

def toJson (v : Version) : Json :=
  .object [("id", .text v.id), ("collection", .text v.collection), ("payload", .ofBytes v.payload),
    ("tombstone", .bool v.tombstone), ("change_vector", v.vector.toJson),
    ("last_modified", .nat v.modified.toNat), ("origin", v.origin.toJson)]

def ofJson? (j : Json) : Option Version := do
  let [id, collection, payload, tombstone, vector, modified, origin] ← j.parts partNames | none
  return {
    id := ← id.needed Json.asText
    collection := ← collection.needed Json.asText
    payload := ← payload.withDefault [] Json.asBytes
    tombstone := ← tombstone.withDefault false Json.asBool
    vector := ← vector.needed VersionVector.ofJson?
    modified := ← modified.needed Json.asUInt64
    origin := ← origin.withDefault .zero NodeId.ofJson? }

end Version

namespace WireVersion

/-- A missing origin is left out. -/
def toJson (v : WireVersion) : Json :=
  .object <| [("id", .text v.id), ("collection", .text v.collection),
    ("payload", .ofBytes v.payload), ("tombstone", .bool v.tombstone),
    ("change_vector", .list (v.vector.map WireEntry.toJson)),
    ("last_modified", .nat v.modified.toNat)] ++
    match v.origin with
    | some node => [("origin", node.toJson)]
    | none => []

def ofJson? (j : Json) : Option WireVersion := do
  let [id, collection, payload, tombstone, vector, modified, origin] ← j.parts Version.partNames
    | none
  return {
    id := ← id.needed Json.asText
    collection := ← collection.needed Json.asText
    payload := ← payload.withDefault [] Json.asBytes
    tombstone := ← tombstone.withDefault false Json.asBool
    vector := ← vector.needed (Json.asList WireEntry.ofJson?)
    modified := ← modified.needed Json.asUInt64
    origin := ← origin.trailing NodeId.ofJson? }

end WireVersion

end CausalReplica
