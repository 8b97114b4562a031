import CausalReplica.VersionVector.Basic

/-!
# The causal order

A vector dominates another when it has seen every write the other has seen and one more. Vectors of
which neither has seen all writes of the other are concurrent: they belong to a real write conflict.

A second order, total and without causal meaning, puts concurrent versions into a fixed sequence.
-/

namespace CausalReplica

/-- How one vector stands to another. -/
inductive Causality where
  | equal
  | dominates
  | dominated
  | concurrent
  deriving DecidableEq, Repr

namespace Causality

/-- The relation as the other side sees it. -/
def reverse : Causality → Causality
  | .equal => .equal
  | .dominates => .dominated
  | .dominated => .dominates
  | .concurrent => .concurrent

def all : List Causality := [.equal, .dominates, .dominated, .concurrent]

def name : Causality → String
  | .equal => "equal"
  | .dominates => "dominates"
  | .dominated => "dominated"
  | .concurrent => "concurrent"

def inspect : Causality → String
  | .equal => "Equal"
  | .dominates => "Dominates"
  | .dominated => "Dominated"
  | .concurrent => "Concurrent"

end Causality

namespace VersionVector

/-- The counters of both vectors for every node that either of them lists. -/
def counterPairs (a b : VersionVector) : List (UInt64 × UInt64) :=
  (Dict.align a.counts b.counts).map fun row ↦ (row.left.getD 0, row.right.getD 0)

/-- How `a` stands to `b`. -/
def relate (a b : VersionVector) : Causality :=
  let pairs := counterPairs a b
  match pairs.any fun p ↦ p.2 < p.1, pairs.any fun p ↦ p.1 < p.2 with
  | false, false => .equal
  | true, false => .dominates
  | false, true => .dominated
  | true, true => .concurrent

/-- `a` has seen all that `b` has seen, and more. -/
def dominates (a b : VersionVector) : Bool := a.relate b = .dominates

/-- Neither has seen all that the other has seen. -/
def concurrentWith (a b : VersionVector) : Bool := a.relate b = .concurrent

/-- `a` has seen all that `b` has seen. -/
def covers (a b : VersionVector) : Bool := a.relate b = .dominates || a.relate b = .equal

/-- The order of two entries: by node, then by counter. -/
def compareEntry : NodeId × UInt64 → NodeId × UInt64 → Ordering :=
  compareLex (compareOn Prod.fst) (compareOn Prod.snd)

/-- A total order of vectors, entry by entry. -/
def canonicalOrder (a b : VersionVector) : Ordering :=
  List.compareLex compareEntry a.entries b.entries

end VersionVector

end CausalReplica
