import CausalReplica.Toml.Basic

/-!
# Putting tables together

A table is defined once. A header may still define a table that until then was only implied by the
headers of its subtables, and dotted keys may extend a table that dotted keys have made. A header in
double brackets adds a table to a list of tables.
-/

namespace CausalReplica.Toml

/-- How a table came about. -/
inductive Origin where
  /-- By its own header. -/
  | header
  /-- By the header of a table below it. -/
  | implied
  /-- By dotted keys. -/
  | dotted
  deriving DecidableEq

/-- A document under construction. -/
inductive Node where
  | value (v : Toml)
  | table (origin : Origin) (fields : List (String × Node))
  /-- A list of tables, the last one first. -/
  | tables (items : List (List (String × Node)))

/-- The fields of a table in order. -/
abbrev Fields := List (String × Node)

/-- The fields with `node` under `key`, in place of what was there. -/
def put (fields : Fields) (key : String) (node : Node) : Fields :=
  if fields.any (·.1 = key) then fields.map fun f ↦ if f.1 = key then (key, node) else f
  else fields ++ [(key, node)]

def get? (fields : Fields) (key : String) : Option Node := (fields.find? (·.1 = key)).map (·.2)

/-- Changes the fields of the table at a path, whose origin `change` sees. Missing tables are made
with origin `made`; for dotted keys tables with a header are closed. -/
def changeAt {α : Type} (made : Origin) (change : Origin → Fields → Option (α × Fields)) :
    (path : List String) → Origin → Fields → Option (α × Fields)
  | [], origin, fields => change origin fields
  | key :: path, _, fields =>
    match get? fields key with
    | none => do
      let (a, below) ← changeAt made change path made []
      return (a, put fields key (.table made below))
    | some (.table origin below) => do
      if made = .dotted && origin = .header then none
      let (a, below) ← changeAt made change path origin below
      return (a, put fields key (.table origin below))
    | some (.tables (last :: earlier)) => do
      let (a, last) ← changeAt made change path .header last
      return (a, put fields key (.tables (last :: earlier)))
    | some _ => none

/-- Adds a key and its value to a table. A dotted key adds to a table that dotted keys have made,
any other key to a table that they have not made. -/
def define (fields : Fields) (path : List String) (key : String) (v : Toml) : Option Fields :=
  let add (origin : Origin) (fields : Fields) : Option (Unit × Fields) :=
    if (origin = .dotted) = path.isEmpty || (get? fields key).isSome then none
    else some ((), fields ++ [(key, .value v)])
  (changeAt .dotted add path .header fields).map (·.2)

/-! ## Sections -/

/-- Where the keys after a header belong. -/
structure Place where
  parents : List String
  key : String
  /-- The header adds to a list of tables. -/
  listed : Bool

/-- A document that is read up to the middle of a section. -/
structure Document where
  /-- The finished sections. -/
  finished : Fields
  /-- Where the open section belongs, nowhere for the keys before the first header. -/
  place : Option Place
  /-- The fields of the open section. -/
  current : Fields

namespace Document

def empty : Document := ⟨[], none, []⟩

/-- The document's fields with those of the open section. -/
def close (d : Document) : Option Fields :=
  match d.place with
  | none => some d.current
  | some place =>
    let add (_ : Origin) (fields : Fields) : Option (Unit × Fields) :=
      if place.listed then
        match get? fields place.key with
        | some (.tables items) => some ((), put fields place.key (.tables (d.current :: items)))
        | none => some ((), put fields place.key (.tables [d.current]))
        | some _ => none
      else some ((), put fields place.key (.table .header d.current))
    (changeAt .implied add place.parents .header d.finished).map (·.2)

/-- Opens the section of a header. A table that is there already must have been implied only; it
moves behind the tables so far. -/
def openSection (d : Document) (place : Place) : Option Document := do
  let finished ← d.close
  let look (_ : Origin) (fields : Fields) : Option (Fields × Fields) :=
    match get? fields place.key with
    | none => some ([], fields)
    | some (.table .implied below) =>
      if place.listed then none else some (below, fields.filter (·.1 ≠ place.key))
    | some (.tables _) => if place.listed then some ([], fields) else none
    | some _ => none
  let (current, finished) ← changeAt .implied look place.parents .header finished
  return ⟨finished, some place, current⟩

/-- Adds a key and its value to the open section. -/
def add (d : Document) (path : List String) (key : String) (v : Toml) : Option Document := do
  return { d with current := ← define d.current path key v }

end Document

mutual

def Node.toToml : Node → Toml
  | .value v => v
  | .table _ fields => .table (toFields fields)
  | .tables items => .list (toTables items).reverse

def toFields : List (String × Node) → List (String × Toml)
  | [] => []
  | (key, node) :: rest => (key, node.toToml) :: toFields rest

def toTables : List (List (String × Node)) → List Toml
  | [] => []
  | fields :: rest => .table (toFields fields) :: toTables rest

end

end CausalReplica.Toml
