import CausalReplica.Text.Printable
import CausalReplica.Text.Hex

/-!
# Inspected values

A value shown for inspection is a tree of words, quotations, records, lists and maps. Rendering is
on one line. In a quotation the quote, the backslash and everything that is not printable are
escaped.
-/

namespace CausalReplica

/-- The shape of an inspected value. -/
inductive Inspection where
  /-- Text shown as it is: a number or a name. -/
  | word (text : String)
  /-- Text shown in double quotes. -/
  | quoted (text : String)
  /-- A name with one unnamed part. -/
  | wrapped (name : String) (part : Inspection)
  /-- A name with named parts. -/
  | record (name : String) (parts : List (String × Inspection))
  | pair (first second : Inspection)
  | list (items : List Inspection)
  | map (entries : List (Inspection × Inspection))

namespace Inspection

def int (n : Int) : Inspection := .word (toString n)

/-- A character as it stands in a quotation. -/
def quoteChar (c : Char) : List Char :=
  match c with
  | '"' => ['\\', '"']
  | '\\' => ['\\', '\\']
  | '\n' => ['\\', 'n']
  | '\r' => ['\\', 'r']
  | '\t' => ['\\', 't']
  | '\x00' => ['\\', '0']
  | c =>
    if Text.isPrintable c then [c]
    else ['\\', 'u', '\x7b'] ++ Nat.toDigits 16 c.toNat ++ ['\x7d']

/-- A text in double quotes. -/
def quote (s : String) : String :=
  String.ofList ('"' :: s.toList.flatMap quoteChar ++ ['"'])

/-- Parts with a comma between any two. -/
def commas (parts : List String) : String := String.intercalate ", " parts

mutual

def render : Inspection → String
  | .word text => text
  | .quoted text => quote text
  | .wrapped name part => name ++ "(" ++ part.render ++ ")"
  | .record name parts => name ++ " \x7b " ++ commas (renderParts parts) ++ " \x7d"
  | .pair first second => "(" ++ first.render ++ ", " ++ second.render ++ ")"
  | .list items => "[" ++ commas (renderItems items) ++ "]"
  | .map entries => "\x7b" ++ commas (renderEntries entries) ++ "\x7d"

def renderItems : List Inspection → List String
  | [] => []
  | x :: xs => x.render :: renderItems xs

def renderParts : List (String × Inspection) → List String
  | [] => []
  | (name, x) :: xs => (name ++ ": " ++ x.render) :: renderParts xs

def renderEntries : List (Inspection × Inspection) → List String
  | [] => []
  | (k, x) :: xs => (k.render ++ ": " ++ x.render) :: renderEntries xs

end

end Inspection

end CausalReplica
