import CausalReplica.CommandLine.Run

/-!
# The program in memory

A tree of files, some variables and a fixed time stand for the operating system, so that a run of
the program is a function of a value. A path is walked part by part, and every part but the last
has to lead to a directory. Paths and their parts are limited in length.
-/

namespace CausalReplica.CommandLine

/-- A place in a tree of files: the names on the way to it, last name first. -/
abbrev Place := List String

/-- What a file holds. -/
inductive MemoryFile where
  | text (text : String)
  /-- A program, and what comes of running it. -/
  | program (launch : Script.Launch)

/-- The text of a file. That of a program is neither a settings file nor a batch file. -/
def MemoryFile.contents : MemoryFile → String
  | .text t => t
  | .program _ => "#!/bin/sh\n:\n"

/-- An operating system in memory. -/
structure Memory where
  files : List (Place × MemoryFile)
  /-- The directory that relative paths start in. -/
  directory : Place
  environment : List (String × String)
  time : Timestamp
  /-- The node that counts as new. -/
  node : NodeId
  /-- The lines for the user so far. -/
  warnings : List String
  /-- The inputs that programs took so far. -/
  inputs : List String

namespace Memory

/-- The place of a path inside a directory. -/
def placeIn (directory : Place) (path : String) : Place :=
  ((path.splitOn "/").filter fun part ↦ part != "" && part != ".").reverse ++ directory

/-- A memory with the given files in its working directory, which is the home directory too. -/
def fresh (directory : String) (files : List (String × MemoryFile))
    (environment : List (String × String)) (time : Timestamp) (node : NodeId) : Memory :=
  let place := placeIn [] directory
  ⟨files.map fun f ↦ (placeIn place f.1, f.2), place, environment ++ [("HOME", directory)], time,
    node, [], []⟩

/-- The file at a place. -/
def file? (m : Memory) (place : Place) : Option MemoryFile :=
  (m.files.find? (·.1 = place)).map (·.2)

/-- A place is a directory when it is the working directory or on the way to it or to a file. -/
def isDirectory (m : Memory) (place : Place) : Bool :=
  place.isSuffixOf m.directory ||
    m.files.any fun f ↦ place.isSuffixOf f.1 && place.length < f.1.length

/-- A place has to be a directory. -/
def enter (m : Memory) (place : Place) : Except FileError Unit :=
  if m.isDirectory place then .ok ()
  else .error (if (m.file? place).isSome then .notDirectory else .notFound)

/-- The place that the parts of a path lead to. -/
def walk (m : Memory) (place : Place) : List String → Except FileError Place
  | [] => .ok place
  | part :: rest => do
    m.enter place
    if Path.maxPartBytes < part.utf8ByteSize then .error .nameTooLong
    else if part = "" || part = "." then m.walk place rest
    else if part = ".." then m.walk (place.drop 1) rest
    else m.walk (part :: place) rest

/-- The place of the parts of a path. -/
def placeOf (m : Memory) (path : String) (parts : List String) : Except FileError Place :=
  if Path.maxBytes < path.utf8ByteSize then .error .nameTooLong
  else if path = "" then .error .notFound
  else m.walk (if Path.isAbsolute path then [] else m.directory) parts

def place (m : Memory) (path : String) : Except FileError Place :=
  m.placeOf path (path.splitOn "/")

def read (m : Memory) (path : String) : Except FileError String := do
  if Path.hasNul path then throw .nulInPath
  let place ← m.place path
  if m.isDirectory place then throw .isDirectory
  match m.file? place with
  | some file => return file.contents
  | none => throw .notFound

/-- The memory with a text in a file. A path that ends in a slash names a directory, whether there
is one or not. -/
def write (m : Memory) (path text : String) : Except FileError Memory := do
  if Path.hasNul path then throw .nulInPath
  let (slashes, parts) := (path.splitOn "/").reverse.span (· = "")
  let above ← m.placeOf path (parts.drop 1).reverse
  m.enter above
  if !slashes.isEmpty then throw .isDirectory
  let place ← m.walk above (parts.take 1)
  if m.isDirectory place then throw .isDirectory
  return { m with files := (place, .text text) :: m.files.filter (·.1 != place) }

/-- What comes of running the program at a path. A name without a slash is no path. -/
def launch (m : Memory) (path : String) : Script.Launch :=
  if Path.hasNul path then .notStarted .nulInProgram
  else if path.toList.all (· != '/') then
    .notStarted (if Path.maxPartBytes < path.utf8ByteSize then .nameTooLong else .notFound)
  else
    match m.place path with
    | .error e => .notStarted e
    | .ok place =>
      match m.file? place with
      | some (.program launch) => launch
      | some (.text _) => .notStarted .denied
      | none => .notStarted (if m.isDirectory place then .denied else .notFound)

/-- The memory after a program was run with some input. -/
def launched (m : Memory) (input : String) : Script.Launch → Memory
  | .ended .. => { m with inputs := m.inputs ++ [input] }
  | _ => m

/-- The value of a variable in an environment. An entry is one text with an equals sign behind the
name, so a name that is asked for may reach into a value. No variable has the empty name. -/
def valueOf (environment : List (String × String)) (name : String) : Option String :=
  let start := name.toList ++ ['=']
  if name = "" then none
  else environment.findSome? fun e ↦
    let entry := e.1.toList ++ '=' :: e.2.toList
    if start.isPrefixOf entry then some (String.ofList (entry.drop start.length)) else none

/-- The operating system of a program in memory. -/
def system : System (StateM Memory) where
  getVariable name := return valueOf (← get).environment name
  home? := return valueOf (← get).environment "HOME"
  readFile path := return (← get).read path
  writeFile path text := modifyGet fun m ↦
    match m.write path text with
    | .ok m => (.ok (), m)
    | .error e => (.error e, m)
  launch path input := modifyGet fun m ↦ ((⟨0⟩, m.launch path), m.launched input (m.launch path))
  now := return (← get).time
  lockBytes := 40
  newNode := return (← get).node
  warn line := modify fun m ↦ { m with warnings := m.warnings ++ [line] }

end Memory

end CausalReplica.CommandLine
