import CausalReplica.Replica.Basic

/-!
# Expectations

Checks of results in trials. A check that fails says what it found instead.
-/

namespace CausalReplica.Expectation

/-- A result is a value. -/
def value {α : Type} (result : Except Inspection α) : Except String α :=
  result.mapError fun e ↦ "Expected Ok, got Err: " ++ e.render

/-- The first two members of a list that are causally ordered, and how. -/
def orderedPair? : List Version → Option (Version × Version × Causality)
  | [] => none
  | v :: rest =>
    match rest.find? fun w ↦ v.relate w != .concurrent with
    | some w => some (v, w, v.relate w)
    | none => orderedPair? rest

/-- No two members of a conflict are causally ordered. -/
def antichain (c : Conflict) : Except String Unit :=
  match orderedPair? c.members with
  | none => .ok ()
  | some (v, w, how) =>
    .error ("Conflict set for " ++ c.id ++ " holds ordered members (" ++ how.inspect ++ "): [" ++
      v.vector.text ++ "] vs [" ++ w.vector.text ++ "]")

/-- What a read of a document found. -/
inductive Found where
  | nothing
  | internal (reason : String)
  | conflict (members : List Version)

def Found.inspect : Found → Inspection
  | .nothing => .wrapped "Ok" (.word "None")
  | .internal reason => .wrapped "Err" (.wrapped "Internal" (.quoted reason))
  | .conflict _ => .word "Conflict"

/-- A read found a conflict. -/
def conflicted : Found → Except String (List Version)
  | .conflict members => .ok members
  | other => .error ("Expected conflict, got " ++ other.inspect.render)

/-- A version was stored. -/
def applied (o : Outcome) : Except String Unit :=
  if o.changedStore then .ok ()
  else .error ("Expected item to reach storage, got " ++ o.inspect.render)

/-- Two lists have the same length, and the second has every element of the first. -/
def sameElements (a b : List Int) : Except String Unit :=
  let shown := "a: " ++ (Inspection.list (a.map .int)).render ++ ", b: " ++
    (Inspection.list (b.map .int)).render
  if a.length != b.length then
    .error ("Collections have different lengths: " ++ toString a.length ++ " vs " ++
      toString b.length ++ ". " ++ shown)
  else
    match a.find? (· ∉ b) with
    | some x => .error ("Element " ++ toString x ++
        " from first collection not found in second. " ++ shown)
    | none => .ok ()

end CausalReplica.Expectation
