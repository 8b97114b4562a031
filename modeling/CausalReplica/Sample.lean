import CausalReplica.Text.Inspection
import CausalReplica.Text.Utf8
import CausalReplica.Version.Wire

/-!
# Sample versions

Versions for trials are described by lists of small nodes with counters. A description that is no
valid vector is an error whose text shows the description.
-/

namespace CausalReplica.Sample

/-- Nodes, each given by the byte that all its bytes are, with their counters. -/
abbrev Pairs := List (UInt8 × Int64)

/-- The entries of a description. -/
def entries (pairs : Pairs) : List WireEntry := pairs.map fun p ↦ ⟨.ofByte p.1, p.2⟩

def inspect (pairs : Pairs) : Inspection :=
  .list (pairs.map fun p ↦ .pair (.int p.1.toNat) (.int p.2.toInt))

/-- The vector of a description. -/
def vector (pairs : Pairs) : Except String VersionVector :=
  (VersionVector.ofWire (entries pairs)).mapError fun e ↦
    "invalid fixture vector " ++ (inspect pairs).render ++ ": " ++ e.message

/-- A payload that tells documents and vectors apart. -/
def payload (id : String) (v : VersionVector) : String :=
  "\x7b\"id\":\"" ++ id ++ "\",\"cv\":\"" ++ v.text ++ "\"\x7d"

def document (id collection : String) (pairs : Pairs) (time : Timestamp) :
    Except String Version := do
  let v ← vector pairs
  return .document id collection (Utf8.encode (payload id v)) v time

def deleted (id collection : String) (pairs : Pairs) (time : Timestamp) :
    Except String Version := do
  return .deleted id collection (← vector pairs) time

/-- The wire form of a document, whose vector may be invalid. -/
def wire (id collection : String) (pairs : Pairs) (time : Timestamp) : WireVersion :=
  let payload := Utf8.encode ("\x7b\"id\":\"" ++ id ++ "\"\x7d")
  ⟨id, collection, payload, false, entries pairs, time, none⟩

/-- The wire form of a deleted document. -/
def wireDeleted (id collection : String) (pairs : Pairs) (time : Timestamp) : WireVersion :=
  { wire id collection pairs time with payload := [], tombstone := true }

end CausalReplica.Sample
