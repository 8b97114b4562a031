import CausalReplica.Logging
import CausalReplica.Node
import CausalReplica.Policy
import CausalReplica.Span.Human
import CausalReplica.Stripes
import CausalReplica.Text.Blank

/-!
# Settings

The settings of a replica process, and the conditions that they have to meet.
-/

namespace CausalReplica

/-- The settings of a replica process. -/
structure Settings where
  node : NodeId
  /-- The number of locks. -/
  stripes : Nat
  /-- How long a script may run. -/
  limit : Span
  policy : Policy
  logging : LogSettings
  /-- Whether events are counted. -/
  metrics : Bool
  deriving DecidableEq

/-- What is wrong with settings, or with their file. -/
inductive SettingsError where
  | read (reason : String)
  | write (reason : String)
  | parse (reason : String)
  | serialize (reason : String)
  | value (reason : String)
  | validation (reason : String)
  /-- A time has one more second than a span has room for. -/
  | overflow
  deriving DecidableEq

def SettingsError.message : SettingsError → String
  | .read reason => "Failed to read configuration file: " ++ reason
  | .write reason => "Failed to write configuration file: " ++ reason
  | .parse reason => "Failed to parse configuration: " ++ reason
  | .serialize reason => "Failed to serialize configuration: " ++ reason
  | .value reason => "Invalid configuration value: " ++ reason
  | .validation reason => "Configuration validation failed: " ++ reason
  | .overflow => "a time has too many seconds"

namespace Settings

/-- Why a value cannot be that of a setting. -/
inductive ValueError where
  | invalid (reason : String)
  | overflow
  deriving DecidableEq

/-- The error of a time that cannot be read. -/
def ValueError.ofSpan : Span.ParseError → ValueError
  | .malformed => .invalid "not a duration"
  | .overflow => .overflow

/-- The settings of a node unless something else is said. -/
def default (node : NodeId) : Settings :=
  ⟨node, Stripes.defaultCount, .ofSeconds 5, .none, .default, true⟩

/-- The first collection whose script has a blank name. -/
def blankScript? : Policy → Option String
  | .scripts byCollection =>
    (byCollection.entries.find? fun e ↦ Text.trim e.2 = "").map (·.1)
  | _ => none

/-- The first condition that the settings do not meet. -/
def validate (s : Settings) : Except SettingsError Unit :=
  if s.stripes = 0 then .error (.validation "lock_stripes must be greater than 0")
  else if s.limit.nanos = 0 then .error (.validation "script_timeout must be greater than 0")
  else
    match blankScript? s.policy with
    | some collection =>
      .error (.validation ("Empty script id for collection " ++ collection))
    | none =>
      match LogLevel.parse s.logging.level with
      | .ok _ => .ok ()
      | .error _ => .error (.validation ("Invalid log level: " ++ s.logging.level))

end Settings

end CausalReplica
