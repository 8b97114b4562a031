import CausalReplica.Resolution
import CausalReplica.Verdict

/-!
# Outcomes

Every version that is handed to a replica has an outcome: it was applied, rejected, put into a
conflict that was resolved or stays open, or it could not be processed. The outcomes of a batch are
reported slot by slot.
-/

namespace CausalReplica

/-- What became of one version. -/
inductive Outcome where
  | accepted (tombstone : Bool)
  | rejected (reason : Rejection)
  | resolved (tombstone : Bool)
  /-- The conflict stays open with so many members. -/
  | conflicted (members : Nat) (reason : Unresolved)
  /-- The conflict changed while its script ran. -/
  | superseded
  | malformed (reason : String)
  /-- A store failed; the version may be delivered again. -/
  | failed (error : String)
  deriving DecidableEq

namespace Outcome

/-- The stored version changed. -/
def changedStore : Outcome → Bool
  | .accepted _ => true
  | .resolved _ => true
  | _ => false

def name : Outcome → String
  | .accepted _ => "accepted"
  | .rejected _ => "rejected"
  | .resolved _ => "resolved"
  | .conflicted .. => "conflicted"
  | .superseded => "superseded"
  | .malformed _ => "malformed"
  | .failed _ => "failed"

def inspect : Outcome → Inspection
  | .accepted tombstone => .record "Accepted" [("tombstone", .word (toString tombstone))]
  | .rejected reason => .record "Rejected" [("reason", .word reason.inspect)]
  | .resolved tombstone => .record "Resolved" [("tombstone", .word (toString tombstone))]
  | .conflicted members reason =>
    .record "Conflicted" [("members", .int members), ("reason", reason.inspect)]
  | .superseded => .word "Superseded"
  | .malformed reason => .record "Malformed" [("reason", .quoted reason)]
  | .failed error => .record "Failed" [("error", .quoted error)]

/-! ## JSON -/

/-- The fields that come after an outcome's name. -/
def content : Outcome → List (String × Json)
  | .accepted tombstone => [("tombstone", .bool tombstone)]
  | .rejected reason => [("reason", .text reason.name)]
  | .resolved tombstone => [("tombstone", .bool tombstone)]
  | .conflicted members reason => [("members", .nat members), ("reason", reason.toJson)]
  | .superseded => []
  | .malformed reason => [("reason", .text reason)]
  | .failed error => [("error", .text error)]

def toJson (o : Outcome) : Json := .object (("outcome", .text o.name) :: o.content)

end Outcome

namespace Rejection

def toJson (r : Rejection) : Json := .text r.name

def ofName? : String → Option Rejection
  | "dominated" => some .dominated
  | "already_applied" => some .alreadyApplied
  | _ => none

def ofJson? (j : Json) : Option Rejection := j.asName.bind ofName?

/-- The rejection within the content of an outcome. -/
def ofContent? (j : Json) : Option Rejection := j.asInnerName.bind ofName?

end Rejection

namespace Outcome

def ofJson? (j : Json) : Option Outcome := do
  let (name, content) ← j.choice? "outcome"
  match ← name.asText with
  | "accepted" =>
    let [tombstone] ← content.parts ["tombstone"] | none
    return .accepted (← tombstone.needed Json.asBool)
  | "rejected" =>
    let [reason] ← content.parts ["reason"] | none
    return .rejected (← reason.needed Rejection.ofContent?)
  | "resolved" =>
    let [tombstone] ← content.parts ["tombstone"] | none
    return .resolved (← tombstone.needed Json.asBool)
  | "conflicted" =>
    let [members, reason] ← content.parts ["members", "reason"] | none
    return .conflicted (← members.needed (Json.asNatBelow UInt64.size))
      (← reason.needed Unresolved.ofContent?)
  | "superseded" =>
    let [] ← content.parts [] | none
    return .superseded
  | "malformed" =>
    let [reason] ← content.parts ["reason"] | none
    return .malformed (← reason.needed Json.asText)
  | "failed" =>
    let [error] ← content.parts ["error"] | none
    return .failed (← error.needed Json.asText)
  | _ => none

end Outcome

/-- The outcomes of a batch from one source, slot by slot under the slots' document ids. -/
structure Report where
  source : NodeId
  outcomes : List (String × Outcome)
  deriving DecidableEq

namespace Report

def size (r : Report) : Nat := r.outcomes.length

def count (r : Report) (name : String) : Nat := r.outcomes.countP fun o ↦ o.2.name = name

def toJson (r : Report) : Json :=
  .object [("source", .text r.source.text),
    ("outcomes", .list (r.outcomes.map fun o ↦ .list [.text o.1, o.2.toJson]))]

def ofJson? (j : Json) : Option Report := do
  let [source, outcomes] ← j.parts ["source", "outcomes"] | none
  return ⟨← source.needed fun j ↦ j.asText.bind NodeId.parse?,
    ← outcomes.needed (Json.asList (Json.asPair Json.asText Outcome.ofJson?))⟩

end Report

end CausalReplica
