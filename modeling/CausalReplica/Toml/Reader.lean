import CausalReplica.Toml.Scalar
import CausalReplica.Toml.Table

/-!
# Reading TOML

A document is a sequence of lines: a header, a key with its value, or nothing, each with an optional
comment. One limit holds for the nesting of lists and inline tables and for the parts of a key.
-/

namespace CausalReplica.Toml

/-! ## Keys -/

/-- One part of a key. -/
def keyPart : Reading String
  | '"' :: rest => basicText [] rest
  | '\'' :: rest => literalText [] rest
  | cs =>
    let word := cs.takeWhile isBareChar
    if word.isEmpty then none else some (String.ofList word, cs.drop word.length)

/-- The parts of a key after the first one, each behind a dot; `fuel` bounds their number. -/
def keyParts : (fuel : Nat) → (seen : List String) → Reading (List String)
  | 0, _ => fun _ ↦ none
  | fuel + 1, seen => fun cs ↦
    match skipSpace cs with
    | '.' :: rest => do
      let (part, rest) ← keyPart (skipSpace rest)
      keyParts fuel (part :: seen) rest
    | rest => some (seen.reverse, rest)

/-- The deepest nesting of values, and the greatest number of parts of a key. -/
def maxDepth : Nat := 79

/-- A key: the parts before its last dot, and the last part. -/
def key : Reading (List String × String) := fun cs ↦ do
  let (part, rest) ← keyPart cs
  let (parts, rest) ← keyParts (rest.length + 1) [part] rest
  if maxDepth < parts.length then none
  return ((parts.dropLast, ← parts.getLast?), rest)

/-- A key with its value, which `value` reads. -/
def keyValue (value : Reading Toml) : Reading ((List String × String) × Toml) := fun cs ↦ do
  let (key, rest) ← key cs
  let '=' :: rest := skipSpace rest | none
  let (v, rest) ← value (skipSpace rest)
  return ((key, v), rest)

/-! ## Values -/

/-- The characters after white space, line ends and comments; `fuel` bounds their number. -/
def skipLines : (fuel : Nat) → List Char → Option (List Char)
  | 0, _ => none
  | fuel + 1, cs =>
    match skipSpace cs with
    | '\n' :: rest => skipLines fuel rest
    | '\r' :: '\n' :: rest => skipLines fuel rest
    | '#' :: rest => do skipLines fuel (← skipComment ('#' :: rest))
    | rest => some rest

/-- The rest of a list, with its items so far, last first; `fuel` bounds their number. -/
def listItems (value : Reading Toml) : (fuel : Nat) → (seen : List Toml) → Reading Toml
  | 0, _ => fun _ ↦ none
  | fuel + 1, seen => fun cs ↦ do
    match ← skipLines (cs.length + 1) cs with
    | ']' :: rest => return (.list seen.reverse, rest)
    | cs =>
      let (v, rest) ← value cs
      match ← skipLines (rest.length + 1) rest with
      | ',' :: rest => listItems value fuel (v :: seen) rest
      | ']' :: rest => return (.list (v :: seen).reverse, rest)
      | _ => none

/-- The rest of an inline table after a key was read or before the first one; `fuel` bounds the
number of keys. -/
def tableItems (value : Reading Toml) : (fuel : Nat) → Fields → Reading Toml
  | 0, _ => fun _ ↦ none
  | fuel + 1, fields => fun cs ↦ do
    let (((path, key), v), rest) ← keyValue value (skipSpace cs)
    let fields ← define fields path key v
    match skipSpace rest with
    | ',' :: rest => tableItems value fuel fields rest
    | '\x7d' :: rest => return (.table (toFields fields), rest)
    | _ => none

/-- An inline table behind its opening brace. -/
def inlineTable (value : Reading Toml) : Reading Toml := fun cs ↦
  match skipSpace cs with
  | '\x7d' :: rest => some (.table [], rest)
  | cs => tableItems value (cs.length + 1) [] cs

/-- A value that is neither a list nor a table. -/
def scalar : Reading Toml := fun cs ↦
  match cs with
  | '"' :: _ => (quoted cs).map fun r ↦ (.text r.1, r.2)
  | '\'' :: _ => (quoted cs).map fun r ↦ (.text r.1, r.2)
  | cs => bare cs

/-- A value, `depth` levels of nesting being left. -/
def value : (depth : Nat) → Reading Toml
  | 0 => scalar
  | depth + 1 => fun cs ↦
    match cs with
    | '[' :: rest => listItems (value depth) (rest.length + 1) [] rest
    | '\x7b' :: rest => inlineTable (value depth) rest
    | cs => scalar cs

/-! ## Documents -/

/-- A header behind its opening bracket or brackets. -/
def header (listed : Bool) : Reading Place := fun cs ↦ do
  let ((parents, key), rest) ← key (skipSpace cs)
  match listed, skipSpace rest with
  | false, ']' :: rest => return (⟨parents, key, false⟩, rest)
  | true, ']' :: ']' :: rest => return (⟨parents, key, true⟩, rest)
  | _, _ => none

/-- A line up to its comment: what the document becomes, and the rest. -/
def line (d : Document) : Reading Document := fun cs ↦
  match cs with
  | '[' :: '[' :: rest => do
    let (place, rest) ← header true rest
    return (← d.openSection place, rest)
  | '[' :: rest => do
    let (place, rest) ← header false rest
    return (← d.openSection place, rest)
  | cs => do
    let (((path, key), v), rest) ← keyValue (value maxDepth) cs
    return (← d.add path key v, rest)

/-- The document after the remaining lines; `fuel` bounds their number. -/
def lines : (fuel : Nat) → Document → List Char → Option Document
  | 0, _, _ => none
  | fuel + 1, d, cs => do
    let cs := skipSpace cs
    let blank := cs.isEmpty || cs.head? == some '#' || (lineEnd? cs).isSome
    let (d, rest) ← if blank then some (d, cs) else line d cs
    let rest ← skipComment (skipSpace rest)
    if rest.isEmpty then return d
    lines fuel d (← lineEnd? rest)

/-- The table of a document. -/
def read? (s : String) : Option Toml := do
  let cs := match s.toList with
    | '\ufeff' :: rest => rest
    | cs => cs
  let d ← lines (cs.length + 1) .empty cs
  return .table (toFields (← d.close))

end CausalReplica.Toml
