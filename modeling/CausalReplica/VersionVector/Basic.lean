import CausalReplica.Dict.Align
import CausalReplica.Node

/-!
# Version vectors

A version vector says how many writes of each node a version of a document has seen. Only nodes with
at least one write are listed, in increasing order, so vectors that agree on every node are equal.
-/

namespace CausalReplica

/-- For every node the number of its writes that are known. -/
structure VersionVector where
  /-- The counters of the nodes that have any write. -/
  counts : Dict NodeId UInt64
  /-- No listed counter is zero. -/
  positive : ∀ e ∈ counts.entries, 0 < e.2

/-- What is wrong with a vector or with a step on it. -/
inductive VectorError where
  | empty
  | duplicateNode (node : NodeId)
  | negativeCounter (node : NodeId) (counter : Int64)
  | counterOverflow (node : NodeId)
  deriving DecidableEq

def VectorError.message : VectorError → String
  | .empty => "change vector is empty"
  | .duplicateNode node => "duplicate entry for node " ++ node.text
  | .negativeCounter node counter =>
    "negative counter " ++ toString counter.toInt ++ " for node " ++ node.text
  | .counterOverflow node => "counter overflow for node " ++ node.text

namespace VersionVector

instance : DecidableEq VersionVector := fun a b ↦
  decidable_of_iff (a.counts = b.counts) ⟨fun h ↦ by cases a; cases b; simp_all, fun h ↦ h ▸ rfl⟩

@[ext] theorem ext_counts {a b : VersionVector} (h : a.counts = b.counts) : a = b := by
  cases a; cases b; simp_all

/-- The vector that knows no write. -/
def empty : VersionVector := ⟨Dict.empty, by simp [Dict.empty]⟩

instance : Inhabited VersionVector := ⟨empty⟩

/-- The listed nodes with their counters, in node order. -/
def entries (v : VersionVector) : List (NodeId × UInt64) := v.counts.entries

/-- The listed nodes in order. -/
def nodes (v : VersionVector) : List NodeId := v.counts.keys

def size (v : VersionVector) : Nat := v.counts.size

def isEmpty (v : VersionVector) : Bool := v.counts.isEmpty

/-- The counter of a node, zero when it is not listed. -/
def count (v : VersionVector) (node : NodeId) : UInt64 := (v.counts.find? node).getD 0

/-- The vector with a positive counter for `node`. -/
def set (v : VersionVector) (node : NodeId) (counter : UInt64) (h : 0 < counter) :
    VersionVector :=
  ⟨v.counts.insert node counter, fun e he ↦ by
    rcases Dict.mem_insertEntry he with rfl | he
    · exact h
    · exact v.positive e he⟩

/-- The vector of the first write of `node`. -/
def authored (node : NodeId) : VersionVector := empty.set node 1 (by decide)

/-- The vector after one more write of `node`. -/
def increment (v : VersionVector) (node : NodeId) : Except VectorError VersionVector :=
  if h : (v.count node).toNat + 1 < UInt64.size then
    .ok (v.set node (v.count node + 1) (by
      have one : UInt64.toNat 1 = 1 := rfl
      rw [UInt64.lt_iff_toNat_lt, UInt64.toNat_add, one, Nat.mod_eq_of_lt h]
      exact Nat.succ_pos _))
  else
    .error (.counterOverflow node)

/-- The entry with the highest counter; of equal counters that of the greatest node. -/
def highest? (v : VersionVector) : Option (NodeId × UInt64) :=
  v.entries.foldl (fun best e ↦
    match best with
    | some b => if e.2 < b.2 then some b else some e
    | none => some e) none

end VersionVector

end CausalReplica
