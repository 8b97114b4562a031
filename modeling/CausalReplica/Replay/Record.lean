import CausalReplica.Json.Shape
import CausalReplica.Replica.Step
import CausalReplica.Text.Base64
import CausalReplica.Version.Json

/-!
# Records of a batch file

A batch file is a list of records, each a version as one source delivered it. The version stays
unread until its record is, so a version that cannot be read spoils no more than its own slot.
Payloads are Base64 texts.
-/

namespace CausalReplica.Replay

/-- A version in a batch file. -/
structure Item where
  id : String
  collection : String
  /-- The Base64 text of the payload. -/
  payload : String
  tombstone : Bool
  vector : List WireEntry
  modified : Timestamp
  origin : Option NodeId
  deriving DecidableEq

namespace Item

/-- A missing origin is left out. -/
def toJson (v : Item) : Json :=
  .object <| [("id", .text v.id), ("collection", .text v.collection),
    ("payload", .text v.payload), ("tombstone", .bool v.tombstone),
    ("change_vector", .list (v.vector.map WireEntry.toJson)),
    ("last_modified", .nat v.modified.toNat)] ++
    match v.origin with
    | some node => [("origin", node.toJson)]
    | none => []

def ofJson? (j : Json) : Option Item := do
  let [id, collection, payload, tombstone, vector, modified, origin] ← j.parts Version.partNames
    | none
  return {
    id := ← id.needed Json.asText
    collection := ← collection.needed Json.asText
    payload := ← payload.withDefault "" Json.asText
    tombstone := ← tombstone.withDefault false Json.asBool
    vector := ← vector.needed (Json.asList WireEntry.ofJson?)
    modified := ← modified.needed Json.asUInt64
    origin := ← origin.trailing NodeId.ofJson? }

/-- The version that an item holds, unless its payload is no Base64. -/
def toWire? (v : Item) : Option WireVersion :=
  (Base64.decode? v.payload).map fun payload ↦
    ⟨v.id, v.collection, payload, v.tombstone, v.vector, v.modified, v.origin⟩

end Item

/-- The id that can be made out in an item. -/
def idOf (item : Json) : String := ((item.field? "id").bind Json.asText).getD ""

/-- Reads an item. What cannot be read keeps its id. -/
def readItem (item : Json) : Delivery :=
  match Item.ofJson? item with
  | none => .error ⟨idOf item, "item does not match the wire shape"⟩
  | some v =>
    match v.toWire? with
    | none => .error ⟨idOf item, "payload of " ++ v.id ++ " is not valid base64"⟩
    | some raw => .ok raw

structure Record where
  source : NodeId
  item : Json

namespace Record

def toJson (r : Record) : Json := .object [("source", r.source.toJson), ("item", r.item)]

def ofJson? (j : Json) : Option Record := do
  let [source, item] ← j.parts ["source", "item"] | none
  return ⟨← source.needed NodeId.ofJson?, ← item.withDefault .null some⟩

end Record

/-! ## Groups -/

/-- The records of a file by source. -/
structure Groups where
  /-- The slots of each source in file order, the sources in order of first appearance. -/
  bySource : List (NodeId × List Delivery)
  /-- The positions of the records without a readable source. -/
  unreadable : List Nat

namespace Groups

/-- The groups with one more slot for a source. -/
def addSlot (source : NodeId) (slot : Delivery) :
    List (NodeId × List Delivery) → List (NodeId × List Delivery)
  | [] => [(source, [slot])]
  | g :: rest =>
    if g.1 = source then (g.1, g.2 ++ [slot]) :: rest else g :: addSlot source slot rest

section Reading

variable (decode : Json → Option Record) (read : Json → Delivery)

/-- The groups with the record at a position, as `decode` reads records and `read` reads items. -/
def addRecordBy (g : Groups) (index : Nat) (record : Json) : Groups :=
  match decode record with
  | some r => { g with bySource := addSlot r.source (read r.item) g.bySource }
  | none => { g with unreadable := g.unreadable ++ [index] }

/-- The groups of records, as `decode` reads them and `read` reads their items. -/
def ofRecordsBy (records : List Json) : Groups :=
  records.zipIdx.foldl (fun g r ↦ g.addRecordBy decode read r.2 r.1) ⟨[], []⟩

end Reading

def ofRecords (records : List Json) : Groups := ofRecordsBy Record.ofJson? readItem records

end Groups

end CausalReplica.Replay
