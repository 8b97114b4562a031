import CausalReplica.Dict.Basic
import CausalReplica.Version.Basic

/-!
# Document stores

A store keeps one version per document. Live documents are put, deleted ones are kept as tombstones
through their own call, and each call refuses the other kind.
-/

namespace CausalReplica

/-- How a call of a store fails. -/
inductive StoreError where
  | readFailed (id reason : String)
  | writeFailed (id reason : String)
  | unavailable (reason : String)
  deriving DecidableEq

def StoreError.message : StoreError → String
  | .readFailed id reason => "read of " ++ id ++ " failed: " ++ reason
  | .writeFailed id reason => "write of " ++ id ++ " failed: " ++ reason
  | .unavailable reason => "storage unavailable: " ++ reason

/-- The versions of documents by id. -/
structure Store where
  versions : Dict String Version

namespace Store

def empty : Store := ⟨Dict.empty⟩

instance : Inhabited Store := ⟨empty⟩

/-- The version of a document, live or not. -/
def get? (s : Store) (id : String) : Option Version := s.versions.find? id

/-- All versions in order of their ids. -/
def all (s : Store) : List Version := s.versions.values

def size (s : Store) : Nat := s.versions.size

def isEmpty (s : Store) : Bool := s.versions.isEmpty

/-- The ids of the deleted documents, in order. -/
def tombstones (s : Store) : List String :=
  (s.versions.entries.filter (·.2.tombstone)).map (·.1)

/-- Keeps a live document. -/
def put (s : Store) (v : Version) : Except StoreError Store :=
  if v.tombstone then .error (.writeFailed v.id "tombstones are written through delete")
  else .ok ⟨s.versions.insert v.id v⟩

/-- Keeps the tombstone of a deleted document. -/
def delete (s : Store) (v : Version) : Except StoreError Store :=
  if v.tombstone then .ok ⟨s.versions.insert v.id v⟩
  else .error (.writeFailed v.id "delete requires a tombstone")

/-- Keeps a version through the call for its kind. -/
def write (s : Store) (v : Version) : Except StoreError Store :=
  if v.tombstone then s.delete v else s.put v

end Store

/-- Which calls of a store fail, and with what error. A store may fail as it likes, so the error need
not be that of the call. -/
structure StoreFaults where
  read : String → Option StoreError
  write : String → Option StoreError
  listing : Option StoreError

namespace StoreFaults

def none : StoreFaults := ⟨fun _ ↦ .none, fun _ ↦ .none, .none⟩

instance : Inhabited StoreFaults := ⟨none⟩

/-- Writes and reads of the given documents fail, and listing where it is said. -/
def failing (writes reads : List String) (listing : Bool) : StoreFaults :=
  ⟨fun id ↦ if id ∈ reads then some (.readFailed id "bad sector") else .none,
    fun id ↦ if id ∈ writes then some (.writeFailed id "disk full") else .none,
    if listing then some (.unavailable "listing disabled") else .none⟩

/-- The version of a document, where its reads do not fail. -/
def get? (f : StoreFaults) (s : Store) (id : String) : Except StoreError (Option Version) :=
  match f.read id with
  | some error => .error error
  | .none => .ok (s.get? id)

/-- A write through `call`, where writes of the document do not fail. -/
def guardWrite (f : StoreFaults) (v : Version) (call : Except StoreError Store) :
    Except StoreError Store :=
  match f.write v.id with
  | some error => .error error
  | .none => call

/-- The deleted documents, where listing them does not fail. -/
def tombstones (f : StoreFaults) (s : Store) : Except StoreError (List String) :=
  match f.listing with
  | some error => .error error
  | .none => .ok s.tombstones

end StoreFaults

end CausalReplica
