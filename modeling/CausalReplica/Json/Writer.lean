import CausalReplica.Json.Basic
import CausalReplica.Text.Hex

/-!
# Writing JSON

A value is written on one line without blanks, or in lines with two blanks per level. In texts only
the quote, the backslash and control characters are escaped.
-/

namespace CausalReplica.Json

def escapeChar (c : Char) : List Char :=
  match c with
  | '"' => ['\\', '"']
  | '\\' => ['\\', '\\']
  | '\n' => ['\\', 'n']
  | '\r' => ['\\', 'r']
  | '\t' => ['\\', 't']
  | '\x08' => ['\\', 'b']
  | '\x0c' => ['\\', 'f']
  | c =>
    if c.toNat < 0x20 then ['\\', 'u', '0', '0'] ++ Hex.byte (UInt8.ofNat c.toNat) else [c]

/-- A text in quotes behind `out`. -/
def writeText (out : String) (s : String) : String :=
  (s.toList.foldl (fun out c ↦ (escapeChar c).foldl String.push out) (out.push '"')).push '"'

mutual

/-- A value on one line behind `out`. -/
def write (out : String) : Json → String
  | .null => out ++ "null"
  | .bool true => out ++ "true"
  | .bool false => out ++ "false"
  | .int n => out ++ toString n
  | .number written => out ++ written
  | .text s => writeText out s
  | .torn => out ++ "null"
  | .list [] => out ++ "[]"
  | .list (j :: items) => (writeItems (write (out.push '[') j) items).push ']'
  | .object [] => out ++ "\x7b\x7d"
  | .object ((name, j) :: fields) =>
    (writeFields (write ((writeText (out.push '\x7b') name).push ':') j) fields).push '\x7d'

def writeItems (out : String) : List Json → String
  | [] => out
  | j :: rest => writeItems (write (out.push ',') j) rest

def writeFields (out : String) : List (String × Json) → String
  | [] => out
  | (name, j) :: rest =>
    writeFields (write ((writeText (out.push ',') name).push ':') j) rest

end

def render (j : Json) : String := write "" j

/-- A new line with two blanks per level. -/
def newLine (out : String) (level : Nat) : String :=
  (List.replicate (2 * level) ' ').foldl String.push (out.push '\n')

mutual

/-- A value in indented lines behind `out`. -/
def writeLines (level : Nat) (out : String) : Json → String
  | .null => out ++ "null"
  | .bool true => out ++ "true"
  | .bool false => out ++ "false"
  | .int n => out ++ toString n
  | .number written => out ++ written
  | .text s => writeText out s
  | .torn => out ++ "null"
  | .list [] => out ++ "[]"
  | .list (j :: items) =>
    let first := writeLines (level + 1) (newLine (out.push '[') (level + 1)) j
    (newLine (writeItemLines (level + 1) first items) level).push ']'
  | .object [] => out ++ "\x7b\x7d"
  | .object ((name, j) :: fields) =>
    let first := writeLines (level + 1)
      (writeText (newLine (out.push '\x7b') (level + 1)) name ++ ": ") j
    (newLine (writeFieldLines (level + 1) first fields) level).push '\x7d'

def writeItemLines (level : Nat) (out : String) : List Json → String
  | [] => out
  | j :: rest => writeItemLines level (writeLines level (newLine (out.push ',') level) j) rest

def writeFieldLines (level : Nat) (out : String) : List (String × Json) → String
  | [] => out
  | (name, j) :: rest =>
    writeFieldLines level
      (writeLines level (writeText (newLine (out.push ',') level) name ++ ": ") j) rest

end

def renderLines (j : Json) : String := writeLines 0 "" j

end CausalReplica.Json
