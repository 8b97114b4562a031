import CausalReplica.Conflict.Basic
import CausalReplica.Version.Json

/-!
# JSON of conflicts

A conflict is a record of its id and its members. Reading one checks nothing about the members.
-/

namespace CausalReplica.Conflict

def toJson (c : Conflict) : Json :=
  .object [("id", .text c.id), ("members", .list (c.members.map Version.toJson))]

def ofJson? (j : Json) : Option Conflict := do
  let [id, members] ← j.parts ["id", "members"] | none
  return ⟨← id.needed Json.asText, ← members.needed (Json.asList Version.ofJson?)⟩

end CausalReplica.Conflict
