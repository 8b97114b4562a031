import CausalReplica.Conflict.Basic
import CausalReplica.Dict.Basic

/-!
# The registry of open conflicts

Every open conflict is recorded under the id of its document. Recording checks that there are at
least two members and that no two of them are causally ordered; a step that fails this check leaves
the registry as it was.
-/

namespace CausalReplica

/-- The open conflicts by document id. -/
structure Registry where
  conflicts : Dict String Conflict

namespace Conflict

/-- A conflict may be recorded. -/
def recordable (c : Conflict) : Except ConflictFault Unit :=
  if c.size < 2 then .error (.tooFew c.id c.size)
  else if c.isAntichain then .ok ()
  else .error (.orderedMembers c.id)

/-- A conflict may be recorded, and `id` is its own. -/
def recordableUnder (c : Conflict) (id : String) : Except ConflictFault Unit := do
  c.recordable
  if c.id ≠ id then
    throw (.strayId c.id id)

end Conflict

namespace Registry

def empty : Registry := ⟨Dict.empty⟩

instance : Inhabited Registry := ⟨empty⟩

/-- The conflict recorded under an id. -/
def get? (r : Registry) (id : String) : Option Conflict := r.conflicts.find? id

/-- The ids with an open conflict, in order. -/
def ids (r : Registry) : List String := r.conflicts.keys

/-- The open conflicts in order of their ids. -/
def all (r : Registry) : List Conflict := r.conflicts.values

def size (r : Registry) : Nat := r.conflicts.size

def isEmpty (r : Registry) : Bool := r.conflicts.isEmpty

/-- Records a conflict under its own id. -/
def record (r : Registry) (c : Conflict) : Except ConflictFault Registry := do
  c.recordable
  return ⟨r.conflicts.insert c.id c⟩

/-- Drops what is recorded under an id. -/
def clear (r : Registry) (id : String) : Registry := ⟨r.conflicts.erase id⟩

/-- Takes out what is recorded under an id and puts in what `change` makes of it. Where that may not
be recorded under the id, what was taken out is put back. -/
def exchange {α : Type} (r : Registry) (id : String)
    (change : Option Conflict → α × Option Conflict) : Registry × Except ConflictFault α :=
  let previous := r.get? id
  let taken := r.clear id
  let (answer, slot) := change previous
  match slot with
  | none => (taken, .ok answer)
  | some c =>
    match c.recordableUnder id with
    | .ok () => (⟨taken.conflicts.insert id c⟩, .ok answer)
    | .error fault => (⟨taken.conflicts.put id previous⟩, .error fault)

/-- Replaces what is recorded under an id by what `change` makes of it, if that may be recorded
there. -/
def modify {α : Type} (r : Registry) (id : String)
    (change : Option Conflict → α × Option Conflict) : Except ConflictFault (α × Registry) :=
  match r.exchange id change with
  | (r, .ok answer) => .ok (answer, r)
  | (_, .error fault) => .error fault

/-! ## Listing a table without an order -/

/-- The ids under which conflicts are recorded, collected as they come and then sorted. -/
def idsOf (recorded : List (String × Conflict)) : List String := (recorded.map (·.1)).mergeSort

/-- The recorded conflicts, collected as they come and then sorted by their own ids. -/
def allOf (recorded : List (String × Conflict)) : List Conflict :=
  (recorded.map (·.2)).mergeSort fun c d ↦ c.id ≤ d.id

end Registry

end CausalReplica
