import CausalReplica.File
import CausalReplica.Json.Reader
import CausalReplica.Json.Writer
import CausalReplica.Script.Basic
import CausalReplica.Text.Base64
import CausalReplica.Text.Blank
import CausalReplica.Text.Expansion
import CausalReplica.Text.Utf8

/-!
# Scripts as programs

A script id is the path of a program, which may be relative to a directory of scripts. The program
gets the request as JSON on its standard input, with Base64 payloads, and writes its answer as JSON
to its standard output. Nothing at all, or null, is the answer that there is no result.
-/

namespace CausalReplica.Script

/-- How a program ended. -/
inductive Status where
  | exited (code : Nat)
  | killed (signal : Nat)
  deriving DecidableEq

def Status.message : Status → String
  | .exited code => "exit status: " ++ toString code
  | .killed signal => "signal: " ++ toString signal

/-- What came of running a program. -/
inductive Launch where
  | notStarted (error : FileError)
  /-- The program did not take its input. -/
  | inputRefused (reason : String)
  | ended (status : Status) (output errors : Bytes)

/-- The program of a script; the directory of scripts counts where its path is relative. -/
def program (home : Option String) (lookup : String → Option String) (dir : Option String)
    (script : String) : Except Failure String :=
  match Expansion.expand home lookup script with
  | .error unset => .error (.failed script ("unknown variable " ++ unset.name))
  | .ok path =>
    match dir with
    | some dir => .ok (Path.join dir path)
    | none => .ok path

/-- The JSON that a program gets. -/
def Request.input (r : Request) : Json :=
  .object [("document_id", .text r.document), ("collection", .text r.collection),
    ("documents", .list (r.documents.map fun d ↦ .text (Base64.encode d))),
    ("has_tombstone", .bool r.hasTombstone)]

/-- The answer of an object whose names may not be repeated, or of the list of name and body. -/
def Answer.ofOutput? (j : Json) : Option Answer :=
  let repeated (name : String) : Bool :=
    match j with
    | .object fields => 1 < fields.countP (·.1 = name)
    | _ => false
  if repeated "resolve" || repeated "body" then none
  else Answer.ofJsonWith? (fun j ↦ j.asText.bind Base64.decode?) j

def answer (script : String) (output : Bytes) : Result :=
  let text := Text.trim (Utf8.decode output)
  if text = "" then .ok .noResult
  else
    match Json.readLoose? text with
    | some .null => .ok .noResult
    | some j =>
      match Answer.ofOutput? j with
      | some answer => .ok answer
      | none => .error (.failed script "the output is no answer")
    | none => .error (.failed script "the output is no JSON")

/-- The result of running the program at `path`. -/
def result (script path : String) : Launch → Result
  | .notStarted error => .error (.failed script ("cannot start " ++ path ++ ": " ++ error.message))
  | .inputRefused reason => .error (.failed script reason)
  | .ended (.exited 0) output _ => answer script output
  | .ended status _ errors =>
    .error (.failed script (status.message ++ ": " ++ Text.trim (Utf8.decode errors)))

end CausalReplica.Script
