import CausalReplica.Toml.Basic
import CausalReplica.Text.Hex

/-!
# Writing TOML

A document is written as sections with a blank line between any two. A section has a header if it is
empty or has values of its own. Texts are written on one line in double quotes where that needs no
escapes, else in the first of these forms that needs none: single quotes, triple double quotes,
triple single quotes.
-/

namespace CausalReplica.Toml

/-! ## Texts -/

def longestRun (c : Char) (cs : List Char) : Nat :=
  (cs.foldl (fun (best, run) d ↦
    let run := if d = c then run + 1 else 0
    (max best run, run)) (0, 0)).1

/-- A character that no form without escapes can hold. -/
def isControl (c : Char) : Bool := (c.toNat < 0x20 && c != '\t' && c != '\n') || c.toNat = 0x7f

def escapeChar (c : Char) : List Char :=
  match c with
  | '\x08' => ['\\', 'b']
  | '\t' => ['\\', 't']
  | '\n' => ['\\', 'n']
  | '\x0c' => ['\\', 'f']
  | '\r' => ['\\', 'r']
  | '"' => ['\\', '"']
  | '\\' => ['\\', '\\']
  | c => ['\\', 'u', '0', '0'] ++ (Hex.byte (UInt8.ofNat c.toNat)).map Char.toUpper

/-- The characters between double quotes; on several lines, line ends and up to two quotes in a row
stand as they are. -/
def escapeFrom (onLines : Bool) (quotes : Nat) : List Char → List Char
  | [] => []
  | c :: rest =>
    if c = '"' then
      if onLines && quotes < 2 then '"' :: escapeFrom onLines (quotes + 1) rest
      else escapeChar c ++ escapeFrom onLines 0 rest
    else if c = '\\' || c = '\t' || isControl c || (c = '\n' && !onLines) then
      escapeChar c ++ escapeFrom onLines 0 rest
    else c :: escapeFrom onLines 0 rest

/-- A text in double quotes on one line. -/
def basic (cs : List Char) : List Char := '"' :: escapeFrom false 0 cs ++ ['"']

/-- A text in single quotes on one line. -/
def literal (cs : List Char) : List Char := '\'' :: cs ++ ['\'']

/-- What stands between triple quotes and a text: a text of several lines starts on a line of its
own. -/
def lineStart (cs : List Char) : List Char := if cs.any (· == '\n') then ['\n'] else []

/-- A text in triple double quotes. -/
def basicOnLines (cs : List Char) : List Char :=
  let quotes := "\"\"\"".toList
  quotes ++ lineStart cs ++ escapeFrom true 0 cs ++ quotes

/-- A text in triple single quotes. -/
def literalOnLines (cs : List Char) : List Char :=
  let quotes := "'''".toList
  quotes ++ lineStart cs ++ cs ++ quotes

/-- A text in the form that suits it. -/
def writeText (s : String) : String :=
  let cs := s.toList
  let control := cs.any isControl
  let backslash := cs.any (· == '\\')
  let newLine := cs.any (· == '\n')
  let double := longestRun '"' cs
  let single := longestRun '\'' cs
  String.ofList <|
    if !control && !backslash && double = 0 && !newLine then basic cs
    else if !control && single = 0 && !newLine then literal cs
    else if !control && !backslash && double < 3 then basicOnLines cs
    else if !control && single < 3 then literalOnLines cs
    else if newLine then basicOnLines cs
    else basic cs

/-- A key, in quotes where it needs them. -/
def writeKey (s : String) : String :=
  let cs := s.toList
  let control := cs.any fun c ↦ isControl c || c == '\n'
  String.ofList <|
    if !cs.isEmpty && cs.all isBareChar then cs
    else if !control && !cs.any (fun c ↦ c == '\\' || c == '"') then basic cs
    else if !control && !cs.any (· == '\'') then literal cs
    else basic cs

/-! ## Sections -/

/-- The values that stand in sections. -/
inductive Scalar where
  | text (s : String)
  | int (n : Int)
  | bool (b : Bool)

def Scalar.write : Scalar → String
  | .text s => writeText s
  | .int n => toString n
  | .bool b => toString b

/-- A table whose subtables are sections of their own. -/
structure Section where
  path : List String
  fields : List (String × Scalar)

/-- The lines of a section. -/
def Section.write (s : Section) : String :=
  s.fields.foldl (fun out f ↦ out ++ writeKey f.1 ++ " = " ++ f.2.write ++ "\n")
    ("[" ++ String.intercalate "." (s.path.map writeKey) ++ "]\n")

/-- The text of a document. -/
def writeSections (sections : List Section) : String :=
  String.intercalate "\n" (sections.map Section.write)

end CausalReplica.Toml
