/-!
# Files

Paths and the ways in which the operating system refuses a file.
-/

namespace CausalReplica

/-- Why a file cannot be used. -/
inductive FileError where
  | notFound
  | denied
  | notDirectory
  | isDirectory
  | nameTooLong
  /-- The path has a NUL character in it. -/
  | nulInPath
  /-- The path of a program has a NUL character in it. -/
  | nulInProgram
  /-- Another error, with its text. -/
  | other (text : String)
  deriving DecidableEq

def FileError.message : FileError → String
  | .notFound => "No such file or directory (os error 2)"
  | .denied => "Permission denied (os error 13)"
  | .notDirectory => "Not a directory (os error 20)"
  | .isDirectory => "Is a directory (os error 21)"
  | .nameTooLong => "File name too long (os error 36)"
  | .nulInPath => "file name contained an unexpected NUL byte"
  | .nulInProgram => "nul byte found in provided data"
  | .other text => text

namespace Path

/-- The path starts at the root directory. -/
def isAbsolute (path : String) : Bool := path.toList.head? == some '/'

/-- The path has a NUL character in it. -/
def hasNul (path : String) : Bool := path.toList.any (· == '\x00')

/-- The greatest number of bytes in a path and in one part of it. -/
def maxBytes : Nat := 4095
def maxPartBytes : Nat := 255

/-- The path behind a directory; an absolute path stands alone. -/
def join (dir path : String) : String :=
  if isAbsolute path then path
  else if dir = "" || dir.toList.getLast? == some '/' then dir ++ path
  else dir ++ "/" ++ path

end Path

end CausalReplica
