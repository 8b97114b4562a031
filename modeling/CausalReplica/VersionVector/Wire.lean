import CausalReplica.VersionVector.Basic

/-!
# Version vectors on the wire

On the wire a vector is a list of entries with signed counters, in any order. Validation takes the
entries from the front: a node that was listed before is refused first, then a negative counter;
entries with counter zero are dropped; and a vector that is left without entries is refused.
-/

namespace CausalReplica

/-- An entry as it arrives. -/
structure WireEntry where
  node : NodeId
  counter : Int64
  deriving DecidableEq

namespace WireEntry

def text (e : WireEntry) : String := e.node.text ++ ":" ++ toString e.counter.toInt

/-- An entry as it is sent; a counter past the signed range is sent as the greatest one. -/
def ofEntry (e : NodeId × UInt64) : WireEntry :=
  ⟨e.1, if e.2.toNat ≤ Int64.maxValue.toInt then e.2.toInt64 else Int64.maxValue⟩

end WireEntry

namespace VersionVector

/-- The vector `v` with the entries added, when `seen` holds the nodes listed before them. -/
def addWire (seen : List NodeId) (v : VersionVector) :
    List WireEntry → Except VectorError VersionVector
  | [] => .ok v
  | e :: rest =>
    if e.node ∈ seen then .error (.duplicateNode e.node)
    else if e.counter < 0 then .error (.negativeCounter e.node e.counter)
    else if h : 0 < e.counter.toUInt64 then
      addWire (e.node :: seen) (v.set e.node e.counter.toUInt64 h) rest
    else addWire (e.node :: seen) v rest

/-- The vector of a list of entries. -/
def ofWire (entries : List WireEntry) : Except VectorError VersionVector :=
  match addWire [] empty entries with
  | .ok v => if v.isEmpty then .error .empty else .ok v
  | .error e => .error e

def toWire (v : VersionVector) : List WireEntry := v.entries.map .ofEntry

end VersionVector

end CausalReplica
