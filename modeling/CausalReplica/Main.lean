import CausalReplica.CommandLine.Run
import Std.Time.DateTime.Timestamp

/-!
# The program's entry

The only place where the program meets the operating system. It cannot start other programs, so
every script counts as one that could not be started.
-/

namespace CausalReplica.CommandLine

def fileError : IO.Error → FileError
  | .noFileOrDirectory .. => .notFound
  | .permissionDenied .. => .denied
  | .inappropriateType .. => .isDirectory
  | e => .other (toString e)

def onFiles {α : Type} (action : IO α) : IO (Except FileError α) := do
  try
    return .ok (← action)
  catch e =>
    return .error (fileError e)

/-- A node with random bits, marked as random. -/
def randomNode : IO NodeId := do
  let bytes ← IO.getRandomBytes 16
  let marks := 0x40008000000000000000#128
  return ⟨((NodeId.ofBytes bytes.toList).bits &&& ~~~0xf000c000000000000000#128) ||| marks⟩

/-- The operating system. -/
def operatingSystem : System IO where
  getVariable name := IO.getEnv name
  home? := IO.getEnv "HOME"
  readFile path := onFiles (IO.FS.readFile ⟨path⟩)
  writeFile path text := onFiles (IO.FS.writeFile ⟨path⟩ text)
  launch _ _ := return (⟨0⟩, .notStarted (.other "no programs can be started"))
  now := do
    let time ← Std.Time.Timestamp.now
    return UInt64.ofNat time.toMillisecondsSinceUnixEpoch.toInt.toNat
  lockBytes := 40
  newNode := randomNode
  warn line := do (← IO.getStderr).putStrLn line

end CausalReplica.CommandLine

open CausalReplica CommandLine in
/-- Runs the program on its arguments. -/
def main (args : List String) : IO UInt32 := do
  let ending ← run operatingSystem args
  (← IO.getStdout).putStr ending.output
  (← IO.getStderr).putStr ending.errors
  return UInt32.ofNat ending.code
