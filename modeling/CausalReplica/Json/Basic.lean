import CausalReplica.Text.Decimal

/-!
# JSON values

An integer is told apart from any other number when it lies between `-2 ^ 63` and `2 ^ 64 - 1`. All
other numbers are kept as they were written. An object keeps its fields in order, repeated names
included; a look-up finds the last field of a name.
-/

namespace CausalReplica

inductive Json where
  | null
  | bool (b : Bool)
  | int (n : Int)
  /-- A number that is no integer or too large for one, as it is written. -/
  | number (written : String)
  | text (s : String)
  /-- A text with one half of a surrogate pair, which stands for no characters, or an object with
  such a name. -/
  | torn
  | list (items : List Json)
  | object (fields : List (String × Json))

namespace Json

instance : Inhabited Json := ⟨.null⟩

def nat (n : Nat) : Json := .int n

/-- The value of the last field named `name`. -/
def lookup (name : String) (fields : List (String × Json)) : Option Json :=
  fields.foldl (fun found f ↦ if f.1 = name then some f.2 else found) none

/-- The value of the last field named `name` of an object. -/
def field? (name : String) : Json → Option Json
  | .object fields => lookup name fields
  | _ => none

/-! ## Values of a document

A document is read more strictly than a value that is passed over: it is nested no deeper than 127
levels, its numbers are finite and its texts are whole. A number counts as the product of its
leading digits and a power of ten. -/

/-- The greatest nesting of lists and objects in a document. -/
def maxDepth : Nat := 127

mutual

/-- A value may stand in a document, `depth` levels of nesting being left. -/
def isSound (depth : Nat) : Json → Bool
  | .number written => Decimal.isProductFinite written.toList
  | .torn => false
  | .list items =>
    match depth with
    | 0 => false
    | depth + 1 => areSound depth items
  | .object fields =>
    match depth with
    | 0 => false
    | depth + 1 => fieldsAreSound depth fields
  | _ => true

def areSound (depth : Nat) : List Json → Bool
  | [] => true
  | j :: rest => j.isSound depth && areSound depth rest

def fieldsAreSound (depth : Nat) : List (String × Json) → Bool
  | [] => true
  | (_, j) :: rest => j.isSound depth && fieldsAreSound depth rest

end

end Json

end CausalReplica
