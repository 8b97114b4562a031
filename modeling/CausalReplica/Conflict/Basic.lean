import CausalReplica.Version.Basic

/-!
# Conflicts

A conflict holds the versions of one document that are pairwise concurrent, so that none of them can
replace another. Building one checks this. A conflict that is read from elsewhere is plain data: its
members may be ordered, and whoever records it checks it again.
-/

namespace CausalReplica

/-- Versions of one document. -/
structure Conflict where
  id : String
  members : List Version
  deriving DecidableEq

/-- Why a conflict cannot be built or recorded. -/
inductive ConflictFault where
  /-- The two versions of a pair are causally ordered. -/
  | orderedPair (id : String)
  /-- Two members are causally ordered. -/
  | orderedMembers (id : String)
  /-- There are too few members. -/
  | tooFew (id : String) (size : Nat)
  /-- The conflict is recorded under the id of another document. -/
  | strayId (id place : String)
  deriving DecidableEq

def ConflictFault.message : ConflictFault → String
  | .orderedPair id => "versions of " ++ id ++ " are causally ordered"
  | .orderedMembers id => "members of " ++ id ++ " are not pairwise concurrent"
  | .tooFew id size => "conflict set for " ++ id ++ " has " ++ toString size ++ " member(s)"
  | .strayId id place => "set for " ++ id ++ " stored under " ++ place

/-- No two versions of the list are causally ordered. -/
def Version.pairwiseConcurrent : List Version → Bool
  | [] => true
  | v :: rest => (rest.all fun w ↦ v.relate w = .concurrent) && pairwiseConcurrent rest

namespace Conflict

/-- No two members are causally ordered. -/
def isAntichain (c : Conflict) : Bool := Version.pairwiseConcurrent c.members

/-- The conflict of two concurrent versions. -/
def pair (existing incoming : Version) : Except ConflictFault Conflict :=
  if existing.relate incoming = .concurrent then .ok ⟨existing.id, [existing, incoming]⟩
  else .error (.orderedPair existing.id)

/-- The conflict of pairwise concurrent versions. -/
def ofMembers (id : String) (members : List Version) : Except ConflictFault Conflict :=
  if Version.pairwiseConcurrent members then .ok ⟨id, members⟩
  else .error (.orderedMembers id)

def size (c : Conflict) : Nat := c.members.length

def hasTombstone (c : Conflict) : Bool := c.members.any (·.tombstone)

/-- The members in canonical order. -/
def canonical (c : Conflict) : List Version :=
  c.members.mergeSort fun a b ↦ (a.canonicalOrder b).isLE

/-- The collection of the first live member in canonical order, or else of the first member. -/
def collection? (c : Conflict) : Option String :=
  (c.canonical.find? (!·.tombstone) <|> c.canonical.head?).map (·.collection)

/-- Live members are in different collections. -/
def hasMixedCollections (c : Conflict) : Bool :=
  match c.members.filter (!·.tombstone) with
  | v :: rest => rest.any (·.collection != v.collection)
  | [] => false

/-- The merge of the members' vectors. -/
def mergedVector (c : Conflict) : VersionVector := .mergeAll (c.members.map (·.vector))

/-- The greatest time of a last change. -/
def latestTime? (c : Conflict) : Option Timestamp :=
  (c.members.map (·.modified)).foldl (fun best t ↦
    match best with
    | some b => if b < t then some t else some b
    | none => some t) none

/-- A hash of the members' vectors and tombstone flags that does not depend on their order. -/
def fingerprint (c : Conflict) : UInt64 :=
  c.canonical.foldl (fun acc v ↦
    Hash.combine64 acc (v.vector.fingerprintWith (if v.tombstone then 1 else 0)))
    (UInt64.ofNat c.size)

/-- Both conflicts have the same id and the same members up to order. -/
def sameMembers (a b : Conflict) : Bool := a.id = b.id && a.canonical = b.canonical

/-! ## Inserting -/

/-- What came of a version that was offered to a conflict. -/
inductive Insertion where
  /-- The version is a member now, in place of the members it dominates. -/
  | inserted (pruned : Nat) (conflict : Conflict)
  /-- A member has seen all that the version has seen. -/
  | covered

/-- Offers a version to a conflict. -/
def insert (c : Conflict) (incoming : Version) : Insertion :=
  if c.members.any fun m ↦ m.vector.covers incoming.vector then .covered
  else
    let kept := c.members.filter fun m ↦ incoming.relate m != .dominates
    .inserted (c.size - kept.length) ⟨c.id, kept ++ [incoming]⟩

/-- The conflict after an insertion. -/
def after (c : Conflict) : Insertion → Conflict
  | .inserted _ grown => grown
  | .covered => c

/-- Offers versions in turn; gives each insertion and the conflict after it. -/
def insertEach (c : Conflict) : List Version → List (Insertion × Conflict)
  | [] => []
  | v :: rest =>
    let step := c.insert v
    (step, c.after step) :: (c.after step).insertEach rest

/-- The conflict after versions are offered to it in turn. -/
def insertAll (c : Conflict) (vs : List Version) : Conflict :=
  vs.foldl (fun c v ↦ c.after (c.insert v)) c

end Conflict

end CausalReplica
