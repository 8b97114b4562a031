import CausalReplica.Text.Lowercase

/-!
# Log levels

A log level is read from its name in any letter case. A log format says what every log line shows.
-/

namespace CausalReplica

/-- How much is logged, from all to least. -/
inductive LogLevel where
  | trace
  | debug
  | info
  | warn
  | error
  deriving DecidableEq, Repr

/-- What is wrong with the logging settings, or with starting to log. -/
inductive LoggingError where
  | initialization (reason : String)
  | configuration (reason : String)
  deriving DecidableEq

def LoggingError.message : LoggingError → String
  | .initialization reason => "Failed to initialize logging: " ++ reason
  | .configuration reason => "Invalid logging configuration: " ++ reason

namespace LogLevel

def all : List LogLevel := [.trace, .debug, .info, .warn, .error]

def name : LogLevel → String
  | .trace => "trace"
  | .debug => "debug"
  | .info => "info"
  | .warn => "warn"
  | .error => "error"

/-- The number of levels below a level. -/
def rank (l : LogLevel) : Nat := all.idxOf l

def parse (s : String) : Except LoggingError LogLevel :=
  match Text.lowercase s with
  | "trace" => .ok .trace
  | "debug" => .ok .debug
  | "info" => .ok .info
  | "warn" => .ok .warn
  | "warning" => .ok .warn
  | "error" => .ok .error
  | other => .error (.configuration ("unknown log level " ++ other))

end LogLevel

/-- What is logged, and what a log line shows. -/
structure LogFormat where
  level : LogLevel
  timestamp : Bool
  target : Bool
  json : Bool
  deriving DecidableEq

/-- The logging settings as they are written. -/
structure LogSettings where
  level : String
  json : Bool
  timestamp : Bool
  target : Bool
  deriving DecidableEq

namespace LogSettings

/-- Logging unless something else is said. -/
def default : LogSettings := ⟨"info", false, true, true⟩

/-- The log format of the settings; a level of no known name counts as `info`. -/
def format (s : LogSettings) : LogFormat :=
  ⟨(LogLevel.parse s.level).toOption.getD .info, s.timestamp, s.target, s.json⟩

end LogSettings

end CausalReplica
