import CausalReplica.Dict.Search
import CausalReplica.VersionVector.Order
import CausalReplica.VersionVector.Wire

/-!
# Bare vectors

A bare vector is a list of nodes with counters and nothing more: it may name a node twice, in any
order and with any counter. The operations on it are loops over positions. Bisection finds a node,
two lists are walked in lockstep, and a comparison stops as soon as both sides have been ahead.

They take for granted that the nodes increase and that no counter is zero, so they give a sense to a
bare vector only if whatever made it has seen to that.
-/

namespace CausalReplica

/-- Nodes with counters. -/
structure BareVector where
  entries : List (NodeId × UInt64)
  deriving DecidableEq

/-- The vector without the proof that it is one. -/
def VersionVector.bare (v : VersionVector) : BareVector := ⟨v.entries⟩

namespace BareVector

def empty : BareVector := ⟨[]⟩

def authored (node : NodeId) : BareVector := ⟨[(node, 1)]⟩

/-- The counter of a node, zero when the search does not find it. -/
def count (v : BareVector) (node : NodeId) : UInt64 := (Dict.searched? node v.entries).getD 0

/-! ## Two vectors in lockstep -/

section Walk

variable {σ : Type}

/-- What follows one more visit, unless that was the last one. -/
def resume (step : ForInStep σ) (rest : σ → σ) : σ :=
  match step with
  | .done s => s
  | .yield s => rest s

/-- Visits the nodes of two lists in order, each with its counters on both sides, until the visitor
is done; a missing counter counts as zero. -/
def walk (visit : NodeId → UInt64 → UInt64 → σ → ForInStep σ) :
    List (NodeId × UInt64) → List (NodeId × UInt64) → σ → σ
  | [], [], s => s
  | l :: ls, [], s => resume (visit l.1 l.2 0 s) (walk visit ls [])
  | [], r :: rs, s => resume (visit r.1 0 r.2 s) (walk visit [] rs)
  | l :: ls, r :: rs, s =>
    match compare l.1 r.1 with
    | .eq => resume (visit l.1 l.2 r.2 s) (walk visit ls rs)
    | .lt => resume (visit l.1 l.2 0 s) (walk visit ls (r :: rs))
    | .gt => resume (visit r.1 0 r.2 s) (walk visit (l :: ls) rs)
termination_by ls rs => ls.length + rs.length

end Walk

/-- Which side has been ahead, the left one or the right one. -/
structure Ahead where
  left : Bool
  right : Bool

/-- One more node; when both sides have been ahead, no further node can matter. -/
def Ahead.visit (_ : NodeId) (a b : UInt64) (s : Ahead) : ForInStep Ahead :=
  let s : Ahead := ⟨s.left || b < a, s.right || a < b⟩
  if s.left && s.right then .done s else .yield s

def relate (v w : BareVector) : Causality :=
  match walk Ahead.visit v.entries w.entries ⟨false, false⟩ with
  | ⟨false, false⟩ => .equal
  | ⟨true, false⟩ => .dominates
  | ⟨false, true⟩ => .dominated
  | ⟨true, true⟩ => .concurrent

def merge (v w : BareVector) : BareVector :=
  ⟨walk (fun node a b es ↦ .yield (es ++ [(node, max a b)])) v.entries w.entries []⟩

def mergeAll (vs : List BareVector) : BareVector := vs.foldl merge empty

/-! ## One more write -/

def increment (v : BareVector) (node : NodeId) : Except VectorError BareVector :=
  match Dict.search node v.entries with
  | .found i =>
    let counter := (v.entries.get i).2
    if counter.toNat + 1 < UInt64.size then .ok ⟨v.entries.set i (node, counter + 1)⟩
    else .error (.counterOverflow node)
  | .missing i => .ok ⟨v.entries.insertIdx i (node, 1)⟩

/-! ## From the wire -/

/-- Adds the entries that have a counter at the end, when `seen` holds the nodes listed before. -/
def collect (seen : List NodeId) (es : List (NodeId × UInt64)) :
    List WireEntry → Except VectorError (List (NodeId × UInt64))
  | [] => .ok es
  | e :: rest =>
    if e.node ∈ seen then .error (.duplicateNode e.node)
    else if e.counter < 0 then .error (.negativeCounter e.node e.counter)
    else if 0 < e.counter.toUInt64 then
      collect (e.node :: seen) (es ++ [(e.node, e.counter.toUInt64)]) rest
    else collect (e.node :: seen) es rest

/-- The vector of a list of entries: they are collected first, and sorted when all have passed. -/
def ofWire (raw : List WireEntry) : Except VectorError BareVector :=
  match collect [] [] raw with
  | .ok es =>
    if es.isEmpty then .error .empty
    else .ok ⟨es.mergeSort fun d e ↦ (compare d.1 e.1).isLE⟩
  | .error e => .error e

end BareVector

end CausalReplica
