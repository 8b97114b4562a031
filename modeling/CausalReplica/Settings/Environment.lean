import CausalReplica.Settings.Basic
import CausalReplica.Text.Decimal

/-!
# Settings from the environment

Environment variables override settings one after the other. A variable that cannot be read stops
this; what was overridden before stays.
-/

namespace CausalReplica.Settings

/-! ## Values -/

/-- The digits of a number; a plus sign may stand before them. -/
def countDigits : List Char → List Char
  | '+' :: c :: rest => c :: rest
  | cs => cs

/-- A number below `2 ^ 64`. The first character that is no digit makes it invalid, unless the
digits before it are too large already. -/
def parseCount (s : String) : Except String Nat :=
  let cs := countDigits s.toList
  let n := Decimal.ofDigits (cs.takeWhile Char.isDigit)
  if cs.isEmpty then .error "cannot parse integer from empty string"
  else if UInt64.size ≤ n then .error "number too large to fit in target type"
  else if cs.all Char.isDigit then .ok n
  else .error "invalid digit found in string"

def parseFlag : String → Except String Bool
  | "true" => .ok true
  | "false" => .ok false
  | _ => .error "provided string was not \x60true\x60 or \x60false\x60"

/-- A policy that needs no scripts. -/
def parsePolicy : String → Except String Policy
  | "none" => .ok .none
  | "resolve_to_latest" => .ok .latest
  | "resolve_to_tombstone" => .ok .tombstone
  | other => .error other

/-! ## Variables -/

/-- A variable that overrides a setting. -/
structure Override where
  name : String
  /-- What the variable holds, for the error text. -/
  noun : String
  /-- The settings with the value in place. -/
  apply : Settings → String → Except ValueError Settings

/-- A variable that sets a setting to what it reads its text as. -/
def Override.of {α : Type} (name noun : String) (read : String → Except String α)
    (put : Settings → α → Settings) : Override :=
  ⟨name, noun, fun s text ↦ ((read text).map (put s)).mapError .invalid⟩

/-- The variables, in the order in which they are read. -/
def overrides : List Override := [
  .of "REPLICORE_NODE_NODE_ID" "node id"
    (fun text ↦ (NodeId.parse? text).elim (.error "not a node id") .ok)
    fun s node ↦ { s with node := node },
  .of "REPLICORE_REPLICATION_LOCK_STRIPES" "stripe count" parseCount
    fun s n ↦ { s with stripes := n },
  ⟨"REPLICORE_REPLICATION_SCRIPT_TIMEOUT", "duration", fun s text ↦
    ((Span.parse text).map fun limit ↦ { s with limit := limit }).mapError .ofSpan⟩,
  .of "REPLICORE_RESOLUTION_POLICY" "policy" parsePolicy fun s p ↦ { s with policy := p },
  .of "REPLICORE_LOG_LEVEL" "log level" .ok
    fun s text ↦ { s with logging := { s.logging with level := text } },
  .of "REPLICORE_LOG_JSON" "JSON flag" parseFlag
    fun s b ↦ { s with logging := { s.logging with json := b } },
  .of "REPLICORE_METRICS_ENABLED" "metrics flag" parseFlag fun s b ↦ { s with metrics := b }]

/-- The settings after the variables that `lookup` knows, and the error that stopped them. -/
def applyOverrides (lookup : String → Option String) (s : Settings) :
    List Override → Settings × Option SettingsError
  | [] => (s, none)
  | o :: rest =>
    match lookup o.name with
    | none => applyOverrides lookup s rest
    | some text =>
      match o.apply s text with
      | .ok s => applyOverrides lookup s rest
      | .error (.invalid reason) =>
        (s, some (.value ("Invalid " ++ o.noun ++ " in " ++ o.name ++ ": " ++ reason)))
      | .error .overflow => (s, some .overflow)

/-- The settings with the environment applied, and the error that stopped it. -/
def applyEnvironment (s : Settings) (lookup : String → Option String) :
    Settings × Option SettingsError :=
  applyOverrides lookup s overrides

/-- Valid settings from the environment alone. -/
def ofEnvironment (node : NodeId) (lookup : String → Option String) :
    Except SettingsError Settings := do
  match (Settings.default node).applyEnvironment lookup with
  | (_, some e) => .error e
  | (s, none) =>
    s.validate
    return s

end CausalReplica.Settings
