/-!
# Command line arguments

The options of the program come before its command and those of a command behind it. An option
takes its value from the next argument or from behind an equals sign, a short one also from right
behind its letter. No option may be repeated, and a value that stands alone may not look like an
option. An argument that asks for help counts unless something before it is wrong; a value that
stands alone is looked at when the next option is read, or else behind the command.
-/

namespace CausalReplica.CommandLine

/-- What the program is to do. -/
inductive Command where
  | replay (batch : String) (scriptsDir : Option String)
  | initSettings (path : String)
  | showSettings
  deriving DecidableEq

structure Arguments where
  settings : Option String
  logLevel : Option String
  jsonLogs : Bool
  command : Command
  deriving DecidableEq

/-- What the arguments ask for. -/
inductive Asked where
  | run (args : Arguments)
  | help
  | version
  | usage
  deriving DecidableEq

structure OptionKind where
  long : String
  short : Option Char
  takesValue : Bool
  /-- The value is a path and may not be empty. -/
  isPath : Bool

/-- What one argument is, given the options that may stand where it stands. -/
inductive Token where
  /-- An option, with the value that is attached to it. -/
  | option (kind : OptionKind) (attached : Option String)
  | help
  | version
  | word (text : String)
  /-- Only words follow. -/
  | wordsOnly
  | unknown

/-- The argument looks like an option. -/
def looksLikeOption (arg : String) : Bool :=
  match arg.toList with
  | ['-'] => false
  | '-' :: _ => true
  | _ => false

/-- The options of a short argument behind its hyphen. -/
def shortToken (kinds : List OptionKind) (version : Bool) : List Char → Token
  | [] => .unknown
  | c :: rest =>
    if c = 'h' then .help
    else if c = 'V' && version then .version
    else
      match kinds.find? fun k ↦ k.short = some c with
      | some kind =>
        match rest with
        | [] => .option kind none
        | '=' :: value => .option kind (some (String.ofList value))
        | value => .option kind (some (String.ofList value))
      | none => .unknown

/-- What an argument is. -/
def token (kinds : List OptionKind) (version : Bool) (arg : String) : Token :=
  match arg.toList with
  | ['-', '-'] => .wordsOnly
  | '-' :: '-' :: long =>
    let name := String.ofList (long.takeWhile (· != '='))
    let attached := match long.dropWhile (· != '=') with
      | _ :: value => some (String.ofList value)
      | [] => none
    if name = "help" then if attached.isNone then .help else .unknown
    else if name = "version" && version then if attached.isNone then .version else .unknown
    else
      match kinds.find? (·.long = name) with
      | some kind => .option kind attached
      | none => .unknown
  | ['-'] => .word arg
  | '-' :: short => shortToken kinds version short
  | _ => .word arg

/-- The options and words of a command. -/
structure Scan where
  /-- The options so far with their values, a flag with an empty one. -/
  options : List (String × String)
  /-- The last option, if its value stands alone. -/
  pending : Option (OptionKind × String)
  /-- The words so far. -/
  words : List String

/-- Why scanning stopped. -/
inductive Stop where
  | help
  | version
  | usage

namespace Scan

def empty : Scan := ⟨[], none, []⟩

/-- The scan with one more option. -/
def add (s : Scan) (kind : OptionKind) (value : String) : Except Stop Scan :=
  if s.options.any (·.1 = kind.long) || (kind.isPath && value = "") then .error .usage
  else .ok { s with options := s.options ++ [(kind.long, value)] }

/-- The scan with the last option among the others. -/
def settle (s : Scan) : Except Stop Scan :=
  match s.pending with
  | none => .ok s
  | some (kind, value) => { s with pending := none }.add kind value

/-- The scan stops unless the last option is wrong. -/
def halt {α : Type} (s : Scan) (stop : Stop) : Except Stop α := do
  let _ ← s.settle
  .error stop

/-- The scan with one more word, of which there may be `count` and none may be empty. -/
def addWord (s : Scan) (count : Nat) (word : String) : Except Stop Scan := do
  let s ← s.settle
  if s.words.length < count && word != "" then return { s with words := s.words ++ [word] }
  else throw .usage

/-- The scan with an option at the front of the arguments, and the arguments behind it. -/
def takeOption (s : Scan) (kind : OptionKind) (attached : Option String)
    (rest : List String) : Except Stop (Scan × List String) := do
  let s ← s.settle
  match kind.takesValue, attached, rest with
  | true, some value, rest => return (← s.add kind value, rest)
  | true, none, value :: rest =>
    if looksLikeOption value then throw .usage
    else return ({ s with pending := some (kind, value) }, rest)
  | true, none, [] => throw .usage
  | false, some _, _ => throw .usage
  | false, none, rest => return (← s.add kind "", rest)

/-- The value of an option. -/
def value? (s : Scan) (long : String) : Option String :=
  (s.options.find? (·.1 = long)).map (·.2)

end Scan

/-- Scans arguments, at most `fuel` of them, up to the name of a command: the scan before it, the
name and the arguments behind it. -/
def scanToName (kinds : List OptionKind) (version : Bool) :
    (fuel : Nat) → Scan → List String → Except Stop (Scan × String × List String)
  | 0, _, _ => .error .usage
  | _, _, [] => .error .usage
  | fuel + 1, s, arg :: rest =>
    match token kinds version arg with
    | .word name => .ok (s, name, rest)
    | .help => s.halt .help
    | .version => s.halt .version
    | .wordsOnly => .error .usage
    | .unknown => .error .usage
    | .option kind attached => do
      let (s, rest) ← s.takeOption kind attached rest
      scanToName kinds version fuel s rest

/-- Scans arguments, at most `fuel` of them, to the end; there may be `count` words. -/
def scanToEnd (kinds : List OptionKind) (count : Nat) :
    (fuel : Nat) → Scan → List String → Except Stop Scan
  | _, s, [] => s.settle
  | 0, _, _ => .error .usage
  | fuel + 1, s, arg :: rest =>
    match token kinds false arg with
    | .word word => do scanToEnd kinds count fuel (← s.addWord count word) rest
    | .help => s.halt .help
    | .version => s.halt .version
    | .wordsOnly => do rest.foldlM (fun s word ↦ s.addWord count word) (← s.settle)
    | .unknown => .error .usage
    | .option kind attached => do
      let (s, rest) ← s.takeOption kind attached rest
      scanToEnd kinds count fuel s rest

/-- The options of the program. -/
def programOptions : List OptionKind := [
  ⟨"config", some 'c', true, true⟩, ⟨"log-level", some 'l', true, false⟩,
  ⟨"json-logs", none, false, false⟩]

/-- The option of a replay. -/
def replayOptions : List OptionKind := [⟨"scripts-dir", none, true, true⟩]

/-- The scan of a command's arguments that has exactly `count` words. -/
def scanCommand (kinds : List OptionKind) (count : Nat) (args : List String) :
    Except Stop Scan := do
  let s ← scanToEnd kinds count args.length .empty args
  if s.words.length = count then return s else throw .usage

/-- The names of the commands below the command that a path of names leads to. -/
def commandsBelow : List String → List String
  | [] => ["replay", "config", "help"]
  | ["config"] => ["init", "show", "help"]
  | _ => []

/-- What asking for help on a command comes to: its names have to lead to one. -/
def helpOn (path : List String) : List String → Stop
  | [] => .help
  | name :: rest => if name ∈ commandsBelow path then helpOn (path ++ [name]) rest else .usage

/-- The command of a name and the arguments behind it. -/
def command (name : String) (args : List String) : Except Stop Command :=
  match name with
  | "replay" => do
    let s ← scanCommand replayOptions 1 args
    return .replay (s.words.headD "") (s.value? "scripts-dir")
  | "config" => do
    let (_, name, rest) ← scanToName [] false args.length .empty args
    match name with
    | "init" => return .initSettings ((← scanCommand [] 1 rest).words.headD "")
    | "show" => return (← scanCommand [] 0 rest, Command.showSettings).2
    | "help" => .error (helpOn ["config"] rest)
    | _ => .error .usage
  | "help" => .error (helpOn [] args)
  | _ => .error .usage

def arguments (args : List String) : Except Stop Arguments := do
  let (s, name, rest) ← scanToName programOptions true args.length .empty args
  let command ← command name rest
  let s ← s.settle
  return {
    settings := s.value? "config"
    logLevel := s.value? "log-level"
    jsonLogs := (s.value? "json-logs").isSome
    command }

def asked (args : List String) : Asked :=
  match arguments args with
  | .ok args => .run args
  | .error .help => .help
  | .error .version => .version
  | .error .usage => .usage

end CausalReplica.CommandLine
