import CausalReplica.Settings.Basic
import CausalReplica.Toml.Reader
import CausalReplica.Toml.Writer

/-!
# Settings files

A settings file is a TOML document. Every section and every key may be missing and unknown keys are
passed over, but a key that is there has to have a value of its type. A section may also be written
as the list of its values in order, and a node as the list of its bytes. What a file sets is taken
up in the order of the document, and the first value that cannot be taken decides on the error.
Reading a file validates the settings.
-/

namespace CausalReplica

namespace Toml

def asText : Toml → Option String
  | .text s => some s
  | _ => none

def asBool : Toml → Option Bool
  | .bool b => some b
  | _ => none

/-- A number that is not negative. -/
def asCount : Toml → Option Nat
  | .int n => if 0 ≤ n then some n.toNat else none
  | _ => none

def asByte (v : Toml) : Option UInt8 := do
  let n ← v.asCount
  if n < UInt8.size then some (UInt8.ofNat n) else none

/-- The name of a choice, under a tag or first in a list, and its content. -/
def choice? (tag : String) : Toml → Option (Toml × Toml)
  | .list (name :: rest) => some (name, .list rest)
  | v => do
    let fields ← v.fields?
    return (← lookup tag fields, .table (fields.filter (·.1 ≠ tag)))

/-- What the content of a choice holds under the given keys. A list may not be longer. -/
def content? (keys : List String) : Toml → Option (List (Option Toml))
  | .list items =>
    if keys.length < items.length then none
    else some ((List.range keys.length).map fun i ↦ items[i]?)
  | v => v.fields?.map fun fields ↦ keys.map fun key ↦ lookup key fields

end Toml

namespace Settings

/-! ## Values -/

/-- A node is its text, or the list of its sixteen bytes with anything behind them. -/
def nodeOfToml? : Toml → Option NodeId
  | .text s => NodeId.parse? s
  | .list items => do
    let bytes ← (items.take 16).mapM Toml.asByte
    if bytes.length = 16 then some (.ofBytes bytes) else none
  | _ => none

/-- A time is a text. -/
def spanOfToml (v : Toml) : Except ValueError Span :=
  match v with
  | .text s => (Span.parse s).mapError .ofSpan
  | _ => .error (.invalid "not a text")

/-- A table of texts. -/
def textsOfToml? (v : Toml) : Option (Dict String String) := do
  let entries ← (← v.fields?).mapM fun f ↦ do return (f.1, ← f.2.asText)
  return Dict.ofList entries

/-- A policy has a kind, and scripts where the kind has any. -/
def policyOfToml? (v : Toml) : Option Policy := do
  let (name, content) ← v.choice? "kind"
  let name ← name.asText
  if name = "script_by_collection" then
    let [scripts] ← content.content? ["scripts"] | none
    return .scripts (← (scripts.map textsOfToml?).getD (some Dict.empty))
  let [] ← content.content? [] | none
  Policy.ofName? name

/-! ## Keys -/

/-- A key of a settings file. -/
structure Key where
  name : String
  /-- The settings with the value in place. -/
  set : Settings → Toml → Except ValueError Settings

namespace Key

/-- A key that sets a setting to what it reads its value as. -/
def of {α : Type} (name : String) (read : Toml → Option α) (put : Settings → α → Settings) : Key :=
  ⟨name, fun s v ↦ ((read v).map (put s)).elim (.error (.invalid ("invalid " ++ name))) .ok⟩

/-- What a section holds under keys that it knows: for a list in the order of the keys, for a table
in that of the table. -/
def assigned? (keys : List Key) : Toml → Option (List (Key × Toml))
  | .list items => some (keys.zip items)
  | v => v.fields?.map fun fields ↦ fields.filterMap fun f ↦
      (keys.find? (·.name = f.1)).map (·, f.2)

/-- A key whose value is a section. -/
def ofSection (name : String) (keys : List Key) : Key :=
  ⟨name, fun s v ↦
    match assigned? keys v with
    | some values => values.foldlM (fun s a ↦ a.1.set s a.2) s
    | none => .error (.invalid (name ++ " is no section"))⟩

end Key

/-- The document as a section of sections. -/
def root : Key := .ofSection "settings" [
  .ofSection "node" [.of "node_id" nodeOfToml? fun s node ↦ { s with node := node }],
  .ofSection "replication" [
    .of "lock_stripes" Toml.asCount fun s n ↦ { s with stripes := n },
    ⟨"script_timeout", fun s v ↦ return { s with limit := ← spanOfToml v }⟩],
  .ofSection "resolution" [.of "policy" policyOfToml? fun s p ↦ { s with policy := p }],
  .ofSection "logging" [
    .of "level" Toml.asText fun s text ↦ { s with logging := { s.logging with level := text } },
    .of "json_format" Toml.asBool fun s b ↦ { s with logging := { s.logging with json := b } },
    .of "with_timestamp" Toml.asBool
      fun s b ↦ { s with logging := { s.logging with timestamp := b } },
    .of "with_target" Toml.asBool
      fun s b ↦ { s with logging := { s.logging with target := b } }],
  .ofSection "metrics" [.of "enabled" Toml.asBool fun s b ↦ { s with metrics := b }]]

/-! ## Reading -/

/-- The settings of a document; `node` is the node where the document names none. -/
def ofToml (node : NodeId) (v : Toml) : Except ValueError Settings :=
  root.set (Settings.default node) v

/-- Valid settings from the text of a file. -/
def ofDocument (node : NodeId) (text : String) : Except SettingsError Settings := do
  let some v := Toml.read? text | throw (.parse "not a TOML document")
  match ofToml node v with
  | .error (.invalid reason) => throw (.parse reason)
  | .error .overflow => throw .overflow
  | .ok s =>
    s.validate
    return s

/-! ## Writing -/

/-- The sections of a policy. -/
def policySections (p : Policy) : List Toml.Section :=
  ⟨["resolution", "policy"], [("kind", .text p.name)]⟩ ::
    match p with
    | .scripts byCollection =>
      [⟨["resolution", "policy", "scripts"], byCollection.entries.map fun e ↦ (e.1, .text e.2)⟩]
    | _ => []

/-- The sections of settings. -/
def sections (s : Settings) : List Toml.Section :=
  [⟨["node"], [("node_id", .text s.node.text)]⟩,
    ⟨["replication"],
      [("lock_stripes", .int s.stripes), ("script_timeout", .text s.limit.human)]⟩] ++
  policySections s.policy ++
  [⟨["logging"], [("level", .text s.logging.level), ("json_format", .bool s.logging.json),
    ("with_timestamp", .bool s.logging.timestamp), ("with_target", .bool s.logging.target)]⟩,
    ⟨["metrics"], [("enabled", .bool s.metrics)]⟩]

/-- The text of a settings file. Its integers are signed, so a greater number of locks cannot be
written. -/
def document (s : Settings) : Except SettingsError String :=
  if Int64.maxValue.toInt < s.stripes then .error (.serialize "number too large for a document")
  else .ok (Toml.writeSections s.sections)

end Settings

end CausalReplica
