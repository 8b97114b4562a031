import CausalReplica.Json.Shape
import CausalReplica.VersionVector.Order
import CausalReplica.VersionVector.Wire

/-!
# JSON of version vectors

An entry is a record of its node and its counter, a vector the list of its entries. Reading a vector
validates it.
-/

namespace CausalReplica

namespace NodeId

def toJson (n : NodeId) : Json := .text n.text

def ofJson? (j : Json) : Option NodeId := j.asText.bind parse?

end NodeId

namespace WireEntry

def toJson (e : WireEntry) : Json :=
  .object [("node", e.node.toJson), ("etag", .int e.counter.toInt)]

def ofJson? (j : Json) : Option WireEntry := do
  let [node, counter] ← j.parts ["node", "etag"] | none
  return ⟨← node.needed NodeId.ofJson?, ← counter.needed Json.asInt64⟩

end WireEntry

namespace VersionVector

def entryToJson (e : NodeId × UInt64) : Json :=
  .object [("node", e.1.toJson), ("etag", .nat e.2.toNat)]

def entryOfJson? (j : Json) : Option (NodeId × UInt64) := do
  let [node, counter] ← j.parts ["node", "etag"] | none
  return (← node.needed NodeId.ofJson?, ← counter.needed Json.asUInt64)

def toJson (v : VersionVector) : Json := .list (v.entries.map entryToJson)

def ofJson? (j : Json) : Option VersionVector := do
  let entries ← j.asList WireEntry.ofJson?
  (ofWire entries).toOption

end VersionVector

namespace Causality

def toJson (c : Causality) : Json := .text c.name

def ofJson? (j : Json) : Option Causality := do
  let name ← j.asName
  all.find? (·.name = name)

end Causality

end CausalReplica
