import CausalReplica.Json.Basic
import CausalReplica.Hash.Word

/-!
# Reading values of known shape

A record may be written as an object, in which unknown names are passed over, or as the list of its
parts in declared order. A part is needed, optional or has a default. A choice without content is
written as its name, or as an object with that name and no value. A choice with content is a record
that says under a tag which choice it is, or a list with the name before its parts.
-/

namespace CausalReplica.Json

/-! ## Plain values -/

def asText : Json → Option String
  | .text s => some s
  | _ => none

def asBool : Json → Option Bool
  | .bool b => some b
  | _ => none

/-- An integer from `low` to `high`. -/
def asIntBetween (low high : Int) : Json → Option Int
  | .int n => if low ≤ n && n ≤ high then some n else none
  | _ => none

/-- A natural number below `bound`. -/
def asNatBelow (bound : Nat) (j : Json) : Option Nat :=
  (j.asIntBetween 0 (bound - 1)).map Int.toNat

def asUInt64 (j : Json) : Option UInt64 := (j.asNatBelow UInt64.size).map UInt64.ofNat

def asInt64 (j : Json) : Option Int64 :=
  (j.asIntBetween Int64.minValue.toInt Int64.maxValue.toInt).map Int64.ofInt

def asList {α : Type} (decode : Json → Option α) : Json → Option (List α)
  | .list items => items.mapM decode
  | _ => none

/-- A list of two. -/
def asPair {α β : Type} (first : Json → Option α) (second : Json → Option β) :
    Json → Option (α × β)
  | .list [a, b] => do return (← first a, ← second b)
  | _ => none

/-- A list of numbers below 256. -/
def asBytes : Json → Option Bytes := asList fun j ↦ (j.asNatBelow UInt8.size).map UInt8.ofNat

def ofBytes (bytes : Bytes) : Json := .list (bytes.map fun b ↦ .nat b.toNat)

/-- The name of a choice without content. -/
def asName : Json → Option String
  | .text s => some s
  | .object [(name, .null)] => some name
  | _ => none

/-- The name of a choice without content within the content of another choice, where an empty object
counts as no value. -/
def asInnerName : Json → Option String
  | .object [(name, .object [])] => some name
  | j => j.asName

/-- The name of a choice within the content of another choice, where its position among all `names`
counts as well. -/
def asNameOrIndex (names : List String) : Json → Option String
  | .int n => if 0 ≤ n then names[n.toNat]? else none
  | j => j.asText

def ofOption {α : Type} (encode : α → Json) : Option α → Json
  | some a => encode a
  | none => .null

/-! ## Records -/

/-- What stands for one part of a record. -/
inductive Part where
  | held (value : Json)
  /-- An object lacks the name. -/
  | unnamed
  /-- A list ends before the part. -/
  | unlisted

/-- The parts of a record with the given names, in their order. -/
def parts (names : List String) : Json → Option (List Part)
  | .object fields =>
    some <| names.map fun name ↦
      match lookup name fields with
      | some j => .held j
      | none => .unnamed
  | .list items =>
    if names.length < items.length then none
    else some (items.map .held ++ List.replicate (names.length - items.length) .unlisted)
  | _ => none

/-- The name of a choice, under a tag or first in a list, and the record of its content. -/
def choice? (tag : String) : Json → Option (Json × Json)
  | .object fields =>
    (lookup tag fields).map fun name ↦ (name, .object (fields.filter (·.1 ≠ tag)))
  | .list (name :: rest) => some (name, .list rest)
  | _ => none

namespace Part

variable {α : Type}

/-- A part that has to be there. -/
def needed (decode : Json → Option α) : Part → Option α
  | .held j => decode j
  | _ => none

/-- A part that may be null, or missing from an object. -/
def optional (decode : Json → Option α) : Part → Option (Option α)
  | .held .null => some none
  | .held j => (decode j).map some
  | .unnamed => some none
  | .unlisted => none

/-- A part that may be null, or missing from an object or a list. -/
def trailing (decode : Json → Option α) : Part → Option (Option α)
  | .held .null => some none
  | .held j => (decode j).map some
  | _ => some none

/-- A part with a default. -/
def withDefault (fallback : α) (decode : Json → Option α) : Part → Option α
  | .held j => decode j
  | _ => some fallback

end Part

end CausalReplica.Json
