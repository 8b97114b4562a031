import CausalReplica.Dict.Basic
import CausalReplica.Json.Shape
import CausalReplica.Text.Inspection

/-!
# Resolution policies

The policy says how an open conflict becomes one version: not at all, by the latest change, by a
deletion if there is one, or by the script that is set for the collection.
-/

namespace CausalReplica

/-- How conflicts are resolved. -/
inductive Policy where
  | none
  | latest
  | tombstone
  /-- Script ids by collection. -/
  | scripts (byCollection : Dict String String)
  deriving DecidableEq

namespace Policy

instance : Inhabited Policy := ⟨.none⟩

/-- The conflict is resolved by a script, outside the document's lock. -/
def usesScripts : Policy → Bool
  | .scripts _ => true
  | _ => false

/-- The script that is set for a collection. -/
def scriptFor? (p : Policy) (collection : String) : Option String :=
  match p with
  | .scripts byCollection => byCollection.find? collection
  | _ => Option.none

def name : Policy → String
  | .none => "none"
  | .latest => "resolve_to_latest"
  | .tombstone => "resolve_to_tombstone"
  | .scripts _ => "script_by_collection"

def inspect : Policy → Inspection
  | .none => .word "None"
  | .latest => .word "ResolveToLatest"
  | .tombstone => .word "ResolveToTombstone"
  | .scripts byCollection => .record "ScriptByCollection" [("scripts",
      .map (byCollection.entries.map fun e ↦ (.quoted e.1, .quoted e.2)))]

/-! ## JSON -/

/-- A dictionary of texts as an object. -/
def textsToJson (d : Dict String String) : Json := .object (d.entries.map fun e ↦ (e.1, .text e.2))

def textsOfJson? : Json → Option (Dict String String)
  | .object fields => do
    let entries ← fields.mapM fun f ↦ do return (f.1, ← f.2.asText)
    return Dict.ofList entries
  | _ => Option.none

def toJson : Policy → Json
  | .scripts byCollection =>
    .object [("kind", .text "script_by_collection"), ("scripts", textsToJson byCollection)]
  | p => .object [("kind", .text p.name)]

/-- The policy of a name without scripts. -/
def ofName? : String → Option Policy
  | "none" => some .none
  | "resolve_to_latest" => some .latest
  | "resolve_to_tombstone" => some .tombstone
  | _ => Option.none

def ofJson? (j : Json) : Option Policy := do
  let (name, content) ← j.choice? "kind"
  let name ← name.asText
  if name = "script_by_collection" then
    let [byCollection] ← content.parts ["scripts"] | Option.none
    return .scripts (← byCollection.withDefault Dict.empty textsOfJson?)
  let [] ← content.parts [] | Option.none
  ofName? name

end Policy

end CausalReplica
