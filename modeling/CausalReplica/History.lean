import CausalReplica.Conflict.Basic
import CausalReplica.Dict.Basic
import CausalReplica.Json.Shape

/-!
# The history of resolutions

For every collection the last attempt to resolve a conflict is kept. Together with the open
conflicts it gives an overview: one row per collection that has an open conflict or a last attempt,
in order of the names. Conflicts without any collection count under the empty name.

The overview walks along both sides in lockstep. Collecting the names first and looking each of them
up on both sides makes up the same rows.
-/

namespace CausalReplica

/-- What came of the last attempt to resolve a conflict. -/
inductive Attempt where
  | resolved (document : String) (tombstone : Bool) (time : Timestamp)
  | unresolved (document reason : String) (time : Timestamp)
  deriving DecidableEq

namespace Attempt

def toJson : Attempt → Json
  | .resolved document tombstone time =>
    .object [("outcome", .text "resolved"), ("document_id", .text document),
      ("tombstone", .bool tombstone), ("at", .nat time.toNat)]
  | .unresolved document reason time =>
    .object [("outcome", .text "unresolved"), ("document_id", .text document),
      ("reason", .text reason), ("at", .nat time.toNat)]

def ofJson? (j : Json) : Option Attempt := do
  let (name, content) ← j.choice? "outcome"
  match ← name.asText with
  | "resolved" =>
    let [document, tombstone, time] ← content.parts ["document_id", "tombstone", "at"] | none
    return .resolved (← document.needed Json.asText) (← tombstone.needed Json.asBool)
      (← time.needed Json.asUInt64)
  | "unresolved" =>
    let [document, reason, time] ← content.parts ["document_id", "reason", "at"] | none
    return .unresolved (← document.needed Json.asText) (← reason.needed Json.asText)
      (← time.needed Json.asUInt64)
  | _ => none

end Attempt

/-- The state of one collection. -/
structure CollectionStatus where
  collection : String
  /-- The number of open conflicts. -/
  unresolved : Nat
  last : Option Attempt
  deriving DecidableEq

namespace CollectionStatus

def toJson (s : CollectionStatus) : Json :=
  .object [("collection", .text s.collection), ("unresolved", .nat s.unresolved),
    ("last_outcome", .ofOption Attempt.toJson s.last)]

def ofJson? (j : Json) : Option CollectionStatus := do
  let [collection, unresolved, last] ← j.parts ["collection", "unresolved", "last_outcome"] | none
  return ⟨← collection.needed Json.asText, ← unresolved.needed (Json.asNatBelow UInt64.size),
    ← last.optional Attempt.ofJson?⟩

end CollectionStatus

/-- The state of all collections. -/
structure Overview where
  /-- The number of open conflicts. -/
  unresolved : Nat
  rows : List CollectionStatus
  deriving DecidableEq

namespace Overview

def row? (o : Overview) (collection : String) : Option CollectionStatus :=
  o.rows.find? (·.collection = collection)

def toJson (o : Overview) : Json :=
  .object [("unresolved_total", .nat o.unresolved),
    ("collections", .list (o.rows.map CollectionStatus.toJson))]

def ofJson? (j : Json) : Option Overview := do
  let [unresolved, rows] ← j.parts ["unresolved_total", "collections"] | none
  return ⟨← unresolved.needed (Json.asNatBelow UInt64.size),
    ← rows.needed (Json.asList CollectionStatus.ofJson?)⟩

end Overview

/-- The last attempt of every collection. -/
structure History where
  last : Dict String Attempt

namespace History

def empty : History := ⟨Dict.empty⟩

instance : Inhabited History := ⟨empty⟩

/-- Keeps an attempt as the last one of its collection. -/
def record (h : History) (collection : String) (attempt : Attempt) : History :=
  ⟨h.last.insert collection attempt⟩

/-- Keeps attempts in turn. -/
def recordAll (h : History) (attempts : List (String × Attempt)) : History :=
  attempts.foldl (fun h a ↦ h.record a.1 a.2) h

/-- The number of open conflicts per collection. -/
def openCounts (conflicts : List Conflict) : Dict String Nat :=
  conflicts.foldl (fun counts c ↦
    let name := c.collection?.getD ""
    counts.insert name ((counts.find? name).getD 0 + 1)) Dict.empty

def overview (h : History) (conflicts : List Conflict) : Overview :=
  ⟨conflicts.length, (Dict.align (openCounts conflicts) h.last).map fun row ↦
    ⟨row.key, row.left.getD 0, row.right⟩⟩

/-! ## The overview name by name -/

/-- The list without what is equal to its predecessor. -/
def withoutRepeats : List String → List String
  | [] => []
  | [a] => [a]
  | a :: b :: rest =>
    if a = b then withoutRepeats (b :: rest) else a :: withoutRepeats (b :: rest)

/-- The collections with an open conflict or a last attempt: their names are collected from both
sides, sorted and rid of repeats. -/
def names (h : History) (conflicts : List Conflict) : List String :=
  withoutRepeats ((openCounts conflicts).keys ++ h.last.keys).mergeSort

/-- The overview with one look-up on either side for every name. -/
def overviewByName (h : History) (conflicts : List Conflict) : Overview :=
  let counts := openCounts conflicts
  ⟨conflicts.length, (h.names conflicts).map fun name ↦
    ⟨name, (counts.find? name).getD 0, h.last.find? name⟩⟩

end History

end CausalReplica
