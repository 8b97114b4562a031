import CausalReplica.Replay.Record
import CausalReplica.Replica.Calls

/-!
# Summaries of a replay

A replay hands the records of a batch file to a replica, source by source. Its summary has the
outcomes and the state that the replica is left in.
-/

namespace CausalReplica.Replay

/-- A version in an open conflict, as it is reported. -/
structure OpenVersion where
  vector : String
  tombstone : Bool
  modified : Timestamp
  /-- The Base64 text of the payload. -/
  payload : String
  deriving DecidableEq

namespace OpenVersion

def toJson (v : OpenVersion) : Json :=
  .object [("change_vector", .text v.vector), ("tombstone", .bool v.tombstone),
    ("last_modified", .nat v.modified.toNat), ("payload", .text v.payload)]

def ofJson? (j : Json) : Option OpenVersion := do
  let [vector, tombstone, modified, payload] ←
    j.parts ["change_vector", "tombstone", "last_modified", "payload"] | none
  return ⟨← vector.needed Json.asText, ← tombstone.needed Json.asBool,
    ← modified.needed Json.asUInt64, ← payload.needed Json.asText⟩

end OpenVersion

/-- An open conflict, as it is reported. -/
structure OpenConflict where
  id : String
  /-- The versions in canonical order. -/
  versions : List OpenVersion
  deriving DecidableEq

namespace OpenConflict

def ofConflict (c : Conflict) : OpenConflict :=
  ⟨c.id, c.canonical.map fun v ↦
    ⟨v.vector.text, v.tombstone, v.modified, Base64.encode v.payload⟩⟩

def toJson (c : OpenConflict) : Json :=
  .object [("id", .text c.id), ("versions", .list (c.versions.map OpenVersion.toJson))]

def ofJson? (j : Json) : Option OpenConflict := do
  let [id, versions] ← j.parts ["id", "versions"] | none
  return ⟨← id.needed Json.asText, ← versions.needed (Json.asList OpenVersion.ofJson?)⟩

end OpenConflict

/-- What a replay comes to. -/
structure Summary where
  batches : List Report
  /-- The positions of the records without a readable source. -/
  unreadable : List Nat
  conflicts : List OpenConflict
  tombstones : List String
  status : Overview
  /-- The tally, where events are counted. -/
  tally : Option Tally

namespace Summary

/-- A record without a readable source. -/
def unreadableToJson (index : Nat) : Json :=
  .object [("index", .nat index), ("reason", .text "no readable source")]

def toJson (s : Summary) : Json :=
  .object <| [("batches", .list (s.batches.map Report.toJson)),
    ("unreadable", .list (s.unreadable.map unreadableToJson)),
    ("conflicts", .list (s.conflicts.map OpenConflict.toJson)),
    ("tombstones", .list (s.tombstones.map .text)), ("status", s.status.toJson)] ++
    match s.tally with
    | some t => [("metrics", .object t.countFields)]
    | none => []

end Summary

variable {m : Type → Type} [Monad m]

/-- Hands the groups of a batch file to a replica, one source after the other, and sums up. -/
def run (h : Host m) (counted : Bool) (groups : Groups) : m (Except ReplicaError Summary) := do
  let batches ← groups.bySource.mapM fun g ↦ h.receiveAll g.1 g.2
  h.atomic fun on r ↦ (r, do
    return {
      batches := batches
      unreadable := groups.unreadable
      conflicts := r.registry.all.map .ofConflict
      tombstones := ← r.tombstones on
      status := r.overview
      tally := if counted then some r.tally else none })

end CausalReplica.Replay
