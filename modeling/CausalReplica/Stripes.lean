import CausalReplica.Hash.XX64

/-!
# Lock stripes

Calls on one document exclude each other. Documents share a fixed number of locks: the lock of a
document is the hash of its id modulo that number. All locks lie in one block of memory, whose size
in bytes is a signed 64-bit number.
-/

namespace CausalReplica

/-- A positive number of locks. -/
structure Stripes where
  size : Nat
  size_pos : 0 < size

namespace Stripes

/-- The number of locks unless something else is said. -/
def defaultCount : Nat := 64

/-- The given number of locks, but at least one, if a block of memory can hold them. How many bytes
one of them takes depends on the kind of lock. -/
def ofCount? (count : Nat) (lockBytes : Nat := 40) : Option Stripes :=
  if count * lockBytes < Int64.size / 2 then some ⟨max count 1, by omega⟩ else none

/-- The lock of a document. -/
def index (s : Stripes) (id : String) : Nat := (XX64.hashText id 0).toNat % s.size

theorem index_lt (s : Stripes) (id : String) : s.index id < s.size := Nat.mod_lt _ s.size_pos

end Stripes

end CausalReplica
