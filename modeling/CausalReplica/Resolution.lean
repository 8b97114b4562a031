import CausalReplica.Conflict.Basic
import CausalReplica.Policy
import CausalReplica.Script.Basic

/-!
# Resolving conflicts

A resolved version carries the merge of all members' vectors, so it dominates every version that it
replaces. A policy without scripts resolves at once; a script policy first names the request that
its script is to answer.
-/

namespace CausalReplica

/-- Why a conflict stays open. -/
inductive Unresolved where
  | manual
  | noScript (collection : String)
  | mixedCollections
  | noResult (script : String)
  | scriptFailed (script error : String)
  | scriptTimedOut (script : String) (millis : UInt64)
  deriving DecidableEq

namespace Unresolved

/-- The script ran into an error or out of time. -/
def isScriptFailure : Unresolved → Bool
  | .scriptFailed .. => true
  | .scriptTimedOut .. => true
  | _ => false

def message : Unresolved → String
  | .manual => "manual resolution required"
  | .noScript collection => "no resolution script configured for collection " ++ collection
  | .mixedCollections => "conflicting versions span several collections"
  | .noResult script => "script " ++ script ++ " returned no result"
  | .scriptFailed script error => "script " ++ script ++ " failed: " ++ error
  | .scriptTimedOut script millis =>
    "script " ++ script ++ " timed out after " ++ toString millis.toNat ++ "ms"

def inspect : Unresolved → Inspection
  | .manual => .word "PolicyNone"
  | .noScript collection => .record "NoScriptForCollection" [("collection", .quoted collection)]
  | .mixedCollections => .word "MixedCollections"
  | .noResult script => .record "ScriptNoResult" [("script_id", .quoted script)]
  | .scriptFailed script error =>
    .record "ScriptFailed" [("script_id", .quoted script), ("error", .quoted error)]
  | .scriptTimedOut script millis =>
    .record "ScriptTimedOut" [("script_id", .quoted script), ("timeout_ms", .int millis.toNat)]

/-! ## JSON -/

def toJson : Unresolved → Json
  | .manual => .object [("reason", .text "policy_none")]
  | .noScript collection =>
    .object [("reason", .text "no_script_for_collection"), ("collection", .text collection)]
  | .mixedCollections => .object [("reason", .text "mixed_collections")]
  | .noResult script =>
    .object [("reason", .text "script_no_result"), ("script_id", .text script)]
  | .scriptFailed script error =>
    .object [("reason", .text "script_failed"), ("script_id", .text script),
      ("error", .text error)]
  | .scriptTimedOut script millis =>
    .object [("reason", .text "script_timed_out"), ("script_id", .text script),
      ("timeout_ms", .nat millis.toNat)]

def names : List String :=
  ["policy_none", "no_script_for_collection", "mixed_collections", "script_no_result",
    "script_failed", "script_timed_out"]

/-- The reason of an object or a list, with a way to read its name. -/
def ofJsonWith? (nameOf : Json → Option String) (j : Json) : Option Unresolved := do
  let (name, content) ← j.choice? "reason"
  match ← nameOf name with
  | "policy_none" =>
    let [] ← content.parts [] | none
    return .manual
  | "no_script_for_collection" =>
    let [collection] ← content.parts ["collection"] | none
    return .noScript (← collection.needed Json.asText)
  | "mixed_collections" =>
    let [] ← content.parts [] | none
    return .mixedCollections
  | "script_no_result" =>
    let [script] ← content.parts ["script_id"] | none
    return .noResult (← script.needed Json.asText)
  | "script_failed" =>
    let [script, error] ← content.parts ["script_id", "error"] | none
    return .scriptFailed (← script.needed Json.asText) (← error.needed Json.asText)
  | "script_timed_out" =>
    let [script, millis] ← content.parts ["script_id", "timeout_ms"] | none
    return .scriptTimedOut (← script.needed Json.asText) (← millis.needed Json.asUInt64)
  | _ => none

def ofJson? : Json → Option Unresolved := ofJsonWith? Json.asText

/-- The reason within the content of an outcome. -/
def ofContent? : Json → Option Unresolved := ofJsonWith? (Json.asNameOrIndex names)

end Unresolved

/-- What came of an attempt to resolve a conflict. -/
inductive Resolution where
  | resolved (version : Version)
  | unresolved (reason : Unresolved)

namespace Conflict

/-- A member with the merge of all vectors. -/
def restamped (c : Conflict) (winner : Version) : Version := winner.withVector c.mergedVector

/-- The latest version. -/
def resolveToLatest? (c : Conflict) : Option Version :=
  (Version.latest? c.members).map c.restamped

/-- The latest tombstone, or else the latest version. -/
def resolveToTombstone? (c : Conflict) : Option Version :=
  (Version.latest? (c.members.filter (·.tombstone)) <|> Version.latest? c.members).map c.restamped

/-- The request to the script of a conflict. -/
def scriptRequest (c : Conflict) (script collection : String) : Script.Request :=
  ⟨script, c.id, collection, (c.canonical.filter (!·.tombstone)).map (·.payload), c.hasTombstone⟩

end Conflict

namespace Resolution

/-- A conflict without members has no winner. -/
def ofWinner : Option Version → Resolution
  | some v => .resolved v
  | none => .unresolved .manual

/-- What resolving a conflict takes. -/
inductive Plan where
  /-- Nothing more: the policy decides. -/
  | settled (resolution : Resolution)
  /-- The answer of a script. -/
  | ask (request : Script.Request)

/-- How a policy goes about a conflict. -/
def plan (p : Policy) (c : Conflict) : Plan :=
  match p with
  | .none => .settled (.unresolved .manual)
  | .latest => .settled (ofWinner c.resolveToLatest?)
  | .tombstone => .settled (ofWinner c.resolveToTombstone?)
  | .scripts byCollection =>
    if c.hasMixedCollections then .settled (.unresolved .mixedCollections)
    else
      match c.collection? with
      | none => .settled (.unresolved .manual)
      | some collection =>
        match byCollection.find? collection with
        | none => .settled (.unresolved (.noScript collection))
        | some script => .ask (c.scriptRequest script collection)

/-- What a script's result makes of a conflict. -/
def ofResult (c : Conflict) (request : Script.Request) (result : Script.Result) : Resolution :=
  let time := c.latestTime?.getD 0
  match result with
  | .ok (.document body) =>
    .resolved (.document c.id request.collection body c.mergedVector time)
  | .ok .tombstone => .resolved (.deleted c.id request.collection c.mergedVector time)
  | .ok .noResult => .unresolved (.noResult request.script)
  | .error (.timedOut _ after) =>
    .unresolved (.scriptTimedOut request.script (UInt64.ofNat after.millis))
  | .error failure => .unresolved (.scriptFailed request.script failure.message)

end Resolution

/-! ## Resolvers -/

/-- A policy, and how long its scripts may run. -/
structure Resolver where
  policy : Policy
  limit : Span

namespace Resolver

/-- The resolution of a conflict when every call of a script runs as `call` says. -/
def resolve (r : Resolver) (call : Script.Request → Script.Run) (c : Conflict) : Resolution :=
  match Resolution.plan r.policy c with
  | .settled resolution => resolution
  | .ask request => .ofResult c request ((call request).within r.limit request.script)

def inspect (r : Resolver) : Inspection :=
  .record "ResolutionPolicyEngine"
    [("policy", r.policy.inspect), ("script_timeout", .word r.limit.inspect)]

end Resolver

end CausalReplica
