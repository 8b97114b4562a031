import CausalReplica.Hash.Word
import CausalReplica.Json.Shape
import CausalReplica.Span.Basic

/-!
# Resolution scripts

A script is asked for the outcome of one conflict. It gets copies of the live payloads and answers
with a new document, a deletion or no result; or the call fails.
-/

namespace CausalReplica.Script

/-- What a script is asked. -/
structure Request where
  script : String
  document : String
  collection : String
  /-- The payloads of the live versions, in canonical order. -/
  documents : List Bytes
  /-- Some version is a tombstone. -/
  hasTombstone : Bool
  deriving DecidableEq

/-- What a script decides. -/
inductive Answer where
  | document (body : Bytes)
  | tombstone
  | noResult
  deriving DecidableEq

/-- How a call of a script fails. -/
inductive Failure where
  | timedOut (script : String) (after : Span)
  | failed (script reason : String)
  | unavailable (reason : String)
  deriving DecidableEq

def Failure.message : Failure → String
  | .timedOut script after => "script " ++ script ++ " timed out after " ++ after.inspect
  | .failed script reason => "script " ++ script ++ " failed: " ++ reason
  | .unavailable reason => "sandbox unavailable: " ++ reason

abbrev Result := Except Failure Answer

/-- The result of every call where no scripts can be run. -/
def notConfigured (r : Request) : Result :=
  .error (.unavailable ("no script runtime configured for " ++ r.script))

/-- A call that took some time. -/
structure Run where
  elapsed : Span
  result : Result

/-- The result of a call that is given up after `limit`. -/
def Run.within (run : Run) (limit : Span) (script : String) : Result :=
  if limit.nanos < run.elapsed.nanos then .error (.timedOut script limit) else run.result

/-! ## JSON -/

namespace Request

def toJson (r : Request) : Json :=
  .object [("script_id", .text r.script), ("document_id", .text r.document),
    ("collection", .text r.collection), ("documents", .list (r.documents.map Json.ofBytes)),
    ("has_tombstone", .bool r.hasTombstone)]

def ofJson? (j : Json) : Option Request := do
  let [script, document, collection, documents, hasTombstone] ←
    j.parts ["script_id", "document_id", "collection", "documents", "has_tombstone"] | none
  return {
    script := ← script.needed Json.asText
    document := ← document.needed Json.asText
    collection := ← collection.needed Json.asText
    documents := ← documents.needed (Json.asList Json.asBytes)
    hasTombstone := ← hasTombstone.needed Json.asBool }

end Request

namespace Answer

def toJson : Answer → Json
  | .document body => .object [("resolve", .text "document"), ("body", .ofBytes body)]
  | .tombstone => .object [("resolve", .text "tombstone")]
  | .noResult => .object [("resolve", .text "no_result")]

/-- The answer of a name and a body that `decode` reads. Only a document has a body. -/
def ofParts? (decode : Json → Option Bytes) (name : String) (body : Option Json) :
    Option Answer :=
  let bare := match body with
    | none => true
    | some .null => true
    | some _ => false
  match name with
  | "document" => (body.bind decode).map .document
  | "tombstone" => if bare then some .tombstone else none
  | "no_result" => if bare then some .noResult else none
  | _ => none

/-- An answer is an object with a name and a body, or the list of both. -/
def ofJsonWith? (decode : Json → Option Bytes) : Json → Option Answer
  | .list [name, body] => name.asText.bind fun name ↦ ofParts? decode name (some body)
  | .object fields => do
    let name ← (← Json.lookup "resolve" fields).asName
    ofParts? decode name (Json.lookup "body" fields)
  | _ => none

/-- An answer whose body is a list of bytes. -/
def ofJson? : Json → Option Answer := ofJsonWith? Json.asBytes

end Answer

end CausalReplica.Script
