import CausalReplica.VersionVector.Basic
import CausalReplica.Hash.Chunks
import CausalReplica.Hash.XX64
import CausalReplica.Hash.Combine

/-!
# Encodings of version vectors

A vector has a byte encoding of twenty-four bytes per entry and a text, both in node order. Its
fingerprint is the hash of the bytes, so equal vectors have equal fingerprints on every replica.
-/

namespace CausalReplica.VersionVector

/-- The sixteen node bytes and the little-endian counter of an entry. -/
def entryBytes (e : NodeId × UInt64) : Bytes := e.1.bytes ++ Bytes.ofNatLE 8 e.2.toNat

/-- The byte encoding. -/
def bytes (v : VersionVector) : Bytes := v.entries.flatMap entryBytes

/-- The text of an entry. -/
def entryText (e : NodeId × UInt64) : String := e.1.text ++ ":" ++ toString e.2.toNat

/-- The entries with a comma between any two. -/
def text (v : VersionVector) : String := String.intercalate ", " (v.entries.map entryText)

/-- The hash of the byte encoding. -/
def fingerprint (v : VersionVector) : UInt64 := XX64.hash v.bytes 0

/-- The fingerprint folded with a seed. -/
def fingerprintWith (v : VersionVector) (seed : UInt64) : UInt64 :=
  Hash.combine64 seed v.fingerprint

/-! ## Reading the bytes -/

/-- The vector of the given entries, if they can be those of a vector. -/
def ofEntries? (entries : List (NodeId × UInt64)) : Option VersionVector :=
  if h : entries.Pairwise (fun a b ↦ compare a.1 b.1 = .lt) ∧ ∀ e ∈ entries, 0 < e.2 then
    some ⟨⟨entries, h.1⟩, h.2⟩
  else none

/-- The entry of twenty-four bytes. -/
def entryOfBytes (bytes : Bytes) : NodeId × UInt64 :=
  (.ofBytes (bytes.take 16), Bytes.word64 (bytes.drop 16))

/-- The vector whose byte encoding is given. -/
def ofBytes? (bytes : Bytes) : Option VersionVector :=
  let (chunks, rest) := Bytes.chunksExact 24 bytes
  if rest.isEmpty then ofEntries? (chunks.map entryOfBytes) else none

end CausalReplica.VersionVector
