import CausalReplica.CommandLine.Arguments
import CausalReplica.Json.Reader
import CausalReplica.Json.Writer
import CausalReplica.Replay.Summary
import CausalReplica.Script.Program
import CausalReplica.Settings.Document
import CausalReplica.Settings.Environment

/-!
# The program

The program replays a batch file on a fresh replica, writes a settings file, or shows the settings
in force. It is written over a system that gives it files, variables, the time and other programs.
-/

namespace CausalReplica.CommandLine

/-- What the program needs from outside. -/
structure System (m : Type → Type) where
  /-- The value of an environment variable. -/
  getVariable : String → m (Option String)
  /-- The home directory. -/
  home? : m (Option String)
  readFile : String → m (Except FileError String)
  writeFile : String → String → m (Except FileError Unit)
  /-- Runs the program at a path with some input, and times it. -/
  launch : String → String → m (Span × Script.Launch)
  now : m Timestamp
  /-- The number of bytes that a lock takes. -/
  lockBytes : Nat
  /-- A node that no other process has. -/
  newNode : m NodeId
  /-- A line for the user that is not part of the output. -/
  warn : String → m Unit

/-- How the program ends. -/
structure Ending where
  code : Nat
  output : String
  /-- The lines for the user. -/
  errors : String

/-- Why the program fails. -/
inductive Failure where
  | cannotExpand (path : String)
  | loading (path : String)
  | reading (path : String)
  | parsing (path : String)
  | settings (error : SettingsError)
  | tooManyLocks
  | replica (error : ReplicaError)

def Failure.message : Failure → String
  | .cannotExpand path => "cannot expand " ++ path
  | .loading path => "loading " ++ path
  | .reading path => "reading " ++ path
  | .parsing path => "parsing " ++ path
  | .settings error => error.message
  | .tooManyLocks => "too many locks"
  | .replica error => error.message

/-- A number in the failure is too large to be counted. -/
def Failure.isOverflow : Failure → Bool
  | .settings .overflow => true
  | .tooManyLocks => true
  | _ => false

def Failure.ending (e : Failure) : Ending :=
  if e.isOverflow then ⟨101, "", e.message ++ "\n"⟩ else ⟨1, "", "Error: " ++ e.message ++ "\n"⟩

variable {m : Type → Type} [Monad m] (sys : System m)

/-- The variables among the given names that are set. -/
def getVariables : List String → m (List (String × String))
  | [] => return []
  | name :: rest => do
    match ← sys.getVariable name with
    | some value => return (name, value) :: (← getVariables rest)
    | none => getVariables rest

/-- A look-up among variables. -/
def lookupIn (vars : List (String × String)) (name : String) : Option String :=
  (vars.find? (·.1 = name)).map (·.2)

/-- The names that a path may mean variables by: the runs of characters behind dollar signs. -/
def mentioned : List Char → List String
  | [] => []
  | '$' :: '\x7b' :: rest =>
    (match Expansion.splitBrace rest with
      | some (inside, _) => [String.ofList (Expansion.nameAndDefault inside).1]
      | none => []) ++ mentioned rest
  | '$' :: rest => String.ofList (rest.takeWhile Expansion.isNameChar) :: mentioned rest
  | _ :: rest => mentioned rest

/-- A path with variables and home directory in place. -/
def expand (path : String) : ExceptT Failure m String := do
  let vars ← ExceptT.lift (getVariables sys (mentioned path.toList))
  match Expansion.expand (← sys.home?) (lookupIn vars) path with
  | .ok path => return path
  | .error _ => throw (.cannotExpand path)

/-- The settings of a file, or the defaults where there is no file. -/
def fileSettings (path : Option String) : ExceptT Failure m Settings := do
  let node ← sys.newNode
  match path with
  | none => return Settings.default node
  | some path =>
    let path ← expand sys path
    let .ok text ← sys.readFile path | throw (.loading path)
    match Settings.ofDocument node text with
    | .ok s => return s
    | .error .overflow => throw (.settings .overflow)
    | .error _ => throw (.loading path)

/-- The settings in force: those of the file, overridden by the environment. -/
def effectiveSettings (path : Option String) : ExceptT Failure m Settings := do
  let s ← fileSettings sys path
  let vars ← ExceptT.lift (getVariables sys (Settings.overrides.map (·.name)))
  match s.applyEnvironment (lookupIn vars) with
  | (_, some e) => throw (.settings e)
  | (s, none) =>
    match s.validate with
    | .ok () => return s
    | .error e => throw (.settings e)

/-! ## Replaying -/

/-- The run of a script as a program. -/
def runScript (dir : Option String) (request : Script.Request) : m Script.Run := do
  let vars ← getVariables sys (mentioned request.script.toList)
  match Script.program (← sys.home?) (lookupIn vars) dir request.script with
  | .error failure => return ⟨⟨0⟩, .error failure⟩
  | .ok path =>
    let (elapsed, launch) ← sys.launch path request.input.render
    return ⟨elapsed, Script.result request.script path launch⟩

/-- The host of a replica that no other process touches. -/
def host (dir : Option String) : Host (StateT Replica m) where
  atomic step := do
    let on : Conditions := ⟨← sys.now, .none⟩
    modifyGet fun r ↦ let (r, a) := step on r; (a, r)
  run request := StateT.lift (runScript sys dir request)

def replay (s : Settings) (batch : String) (scriptsDir : Option String) :
    ExceptT Failure m Replay.Summary := do
  let batch ← expand sys batch
  match ← sys.readFile batch with
  | .error _ => throw (.reading batch)
  | .ok text =>
    match Json.read? text with
    | some (.list records) =>
      let dir ← scriptsDir.mapM (expand sys)
      if (Stripes.ofCount? s.stripes sys.lockBytes).isNone then throw .tooManyLocks
      let replica := Replica.fresh s.node s.policy s.limit
      match ← (Replay.run (host sys dir) s.metrics (.ofRecords records)).run' replica with
      | .ok summary => return summary
      | .error e => throw (.replica e)
    | _ => throw (.parsing batch)

/-! ## Commands -/

/-- The text of settings. -/
def document (s : Settings) : ExceptT Failure m String :=
  match s.document with
  | .ok text => return text
  | .error e => throw (.settings e)

def perform (s : Settings) : Command → ExceptT Failure m String
  | .replay batch scriptsDir => do
    return (← replay sys s batch scriptsDir).toJson.renderLines ++ "\n"
  | .initSettings path => do
    let path ← expand sys path
    match ← sys.writeFile path (← document (Settings.default (← sys.newNode))) with
    | .ok () => return ""
    | .error e => throw (.settings (.write e.message))
  | .showSettings => return (← document s) ++ "\n"

def usage : String :=
  "Usage: replicore [--config FILE] [--log-level LEVEL] [--json-logs] COMMAND\n" ++
  "Commands:\n" ++
  "  replay BATCH [--scripts-dir DIR]  process a batch file and print the resulting state\n" ++
  "  config init PATH                  write a default settings file\n" ++
  "  config show                       print the effective settings\n"

def runWith (args : Arguments) : ExceptT Failure m String := do
  let s ← effectiveSettings sys args.settings
  if let some level := args.logLevel then
    if (LogLevel.parse level).toOption.isNone then
      sys.warn ("Invalid log level '" ++ level ++ "', using 'info'")
  perform sys s args.command

def run (args : List String) : m Ending := do
  match asked args with
  | .help => return ⟨0, usage, ""⟩
  | .version => return ⟨0, "replicore 0.1.0\n", ""⟩
  | .usage => return ⟨2, "", usage⟩
  | .run args =>
    match ← (runWith sys args).run with
    | .ok output => return ⟨0, output, ""⟩
    | .error e => return e.ending

end CausalReplica.CommandLine
