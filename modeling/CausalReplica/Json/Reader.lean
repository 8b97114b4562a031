import CausalReplica.Json.Basic
import CausalReplica.Text.Hex

/-!
# Reading JSON

A text is first cut into lexemes by an automaton that sees one character at a time, and the lexemes
are then put together by a machine with one frame per open list or object. Both are folds, so no
nesting of the input is too deep.
-/

namespace CausalReplica.Json

/-! ## Lexemes -/

/-- The least parts of a JSON text. -/
inductive Lexeme where
  | openList
  | closeList
  | openObject
  | closeObject
  | comma
  | colon
  | scalar (value : Json)
  /-- A text, or nothing for a torn one. -/
  | text (s : Option String)

/-- The white space of JSON. -/
def isSpace (c : Char) : Bool := c == ' ' || c == '\n' || c == '\t' || c == '\r'

def isNumberChar (c : Char) : Bool :=
  c.isDigit || c == '-' || c == '+' || c == '.' || c == 'e' || c == 'E'

/-- One or more digits and nothing else. -/
def areDigits (cs : List Char) : Bool := !cs.isEmpty && cs.all Char.isDigit

/-- The characters up to the first one in `stops`, and from it on. -/
def splitAtAny (stops : List Char) (cs : List Char) : List Char × List Char :=
  (cs.takeWhile fun c ↦ c ∉ stops, cs.dropWhile fun c ↦ c ∉ stops)

/-- A whole part is zero or starts with another digit. -/
def isWholePart (cs : List Char) : Bool :=
  areDigits cs && (cs.length == 1 || cs.head? != some '0')

/-- A fraction is missing or has digits after its point. -/
def isFractionPart : List Char → Bool
  | [] => true
  | c :: digits => c == '.' && areDigits digits

/-- An exponent is missing or has digits after its letter and sign. -/
def isExponentPart : List Char → Bool
  | [] => true
  | _ :: '+' :: digits => areDigits digits
  | _ :: '-' :: digits => areDigits digits
  | _ :: digits => areDigits digits

/-- The number that characters spell. A negative zero is no integer. -/
def number? (cs : List Char) : Option Json :=
  let negative := cs.head? == some '-'
  let unsigned := if negative then cs.drop 1 else cs
  let (whole, rest) := splitAtAny ['.', 'e', 'E'] unsigned
  let (part, exponent) := splitAtAny ['e', 'E'] rest
  if isWholePart whole && isFractionPart part && isExponentPart exponent then
    let n : Nat := Decimal.ofDigits whole
    if !rest.isEmpty || (negative && (n == 0 || -n < Int64.minValue.toInt)) || UInt64.size ≤ n then
      some (.number (String.ofList cs))
    else
      some (.int (if negative then -n else n))
  else
    none

/-- The value of a bare word. -/
def word? (cs : List Char) : Option Json :=
  if cs = "null".toList then some .null
  else if cs = "true".toList then some (.bool true)
  else if cs = "false".toList then some (.bool false)
  else none

/-- A text that is being read: its characters last first, a high surrogate that waits for its low
half, and whether every surrogate so far had both halves. -/
structure Opened where
  seen : List Char
  high : Option Nat
  whole : Bool

namespace Opened

def start : Opened := ⟨[], none, true⟩

/-- A plain character is read. -/
def push (t : Opened) (c : Char) : Opened := ⟨c :: t.seen, none, t.whole && t.high.isNone⟩

/-- A 16-bit unit of an escape is read. -/
def pushUnit (t : Opened) (unit : Nat) : Opened :=
  if 0xd800 ≤ unit && unit ≤ 0xdbff then ⟨t.seen, some unit, t.whole && t.high.isNone⟩
  else if 0xdc00 ≤ unit && unit ≤ 0xdfff then
    match t.high with
    | some high =>
      ⟨Char.ofNat (0x10000 + (high - 0xd800) * 1024 + (unit - 0xdc00)) :: t.seen, none, t.whole⟩
    | none => ⟨t.seen, none, false⟩
  else t.push (Char.ofNat unit)

/-- The lexeme of the finished text. -/
def close (t : Opened) : Lexeme :=
  .text (if t.whole && t.high.isNone then some (String.ofList t.seen.reverse) else none)

end Opened

/-- What the automaton is in the middle of. -/
inductive Middle where
  | nothing
  | number (seen : List Char)
  | word (seen : List Char)
  | text (t : Opened)
  | escape (t : Opened)
  /-- In a numbered escape, with the digits so far. -/
  | unit (t : Opened) (digits : List Char)

/-- The lexemes so far, last first, and what is in the middle. -/
structure Lexer where
  done : List Lexeme
  middle : Middle

namespace Lexer

/-- The character of a short escape. -/
def escaped? : Char → Option Char
  | '"' => some '"'
  | '\\' => some '\\'
  | '/' => some '/'
  | 'b' => some '\x08'
  | 'f' => some '\x0c'
  | 'n' => some '\n'
  | 'r' => some '\r'
  | 't' => some '\t'
  | _ => none

/-- A character is read between two lexemes. -/
def begin (done : List Lexeme) (c : Char) : Option Lexer :=
  if isSpace c then some ⟨done, .nothing⟩
  else match c with
  | '[' => some ⟨.openList :: done, .nothing⟩
  | ']' => some ⟨.closeList :: done, .nothing⟩
  | '\x7b' => some ⟨.openObject :: done, .nothing⟩
  | '\x7d' => some ⟨.closeObject :: done, .nothing⟩
  | ',' => some ⟨.comma :: done, .nothing⟩
  | ':' => some ⟨.colon :: done, .nothing⟩
  | '"' => some ⟨done, .text .start⟩
  | c =>
    if c.isDigit || c == '-' then some ⟨done, .number [c]⟩
    else if c.isAlpha then some ⟨done, .word [c]⟩
    else none

def step (l : Lexer) (c : Char) : Option Lexer :=
  match l.middle with
  | .nothing => begin l.done c
  | .number seen =>
    if isNumberChar c then some ⟨l.done, .number (c :: seen)⟩
    else (number? seen.reverse).bind fun j ↦ begin (.scalar j :: l.done) c
  | .word seen =>
    if c.isAlpha then some ⟨l.done, .word (c :: seen)⟩
    else (word? seen.reverse).bind fun j ↦ begin (.scalar j :: l.done) c
  | .text t =>
    if c == '"' then some ⟨t.close :: l.done, .nothing⟩
    else if c == '\\' then some ⟨l.done, .escape t⟩
    else if c.toNat < 0x20 then none
    else some ⟨l.done, .text (t.push c)⟩
  | .escape t =>
    if c == 'u' then some ⟨l.done, .unit t []⟩
    else (escaped? c).map fun c ↦ ⟨l.done, .text (t.push c)⟩
  | .unit t digits =>
    if (Hex.value? c).isNone then none
    else if digits.length < 3 then some ⟨l.done, .unit t (digits ++ [c])⟩
    else (Hex.number? (digits ++ [c])).map fun n ↦ ⟨l.done, .text (t.pushUnit n)⟩

/-- The lexemes after the last character, last first. -/
def finish (l : Lexer) : Option (List Lexeme) :=
  match l.middle with
  | .nothing => some l.done
  | .number seen => (number? seen.reverse).map (.scalar · :: l.done)
  | .word seen => (word? seen.reverse).map (.scalar · :: l.done)
  | _ => none

end Lexer

def lexemes? (text : String) : Option (List Lexeme) := do
  let l ← text.toList.foldlM Lexer.step ⟨[], .nothing⟩
  return (← l.finish).reverse

/-! ## Values -/

/-- The fields of an object, last first, unless one of their names is torn. -/
abbrev Fields := Option (List (String × Json))

def Fields.push (fields : Fields) (name : Option String) (value : Json) : Fields := do
  return (← name, value) :: (← fields)

def Fields.close (fields : Fields) : Json :=
  match fields with
  | some fields => .object fields.reverse
  | none => .torn

/-- A list or an object that is still open, its parts last first. -/
inductive Frame where
  | list (items : List Json)
  | object (fields : Fields) (name : Option String)

/-- What may come next. -/
inductive Expected where
  /-- A value. -/
  | value
  /-- The first item of a list, or its end. -/
  | firstItem
  /-- The first name of an object, or its end. -/
  | firstName
  /-- A name of the object with these fields. -/
  | name (fields : Fields)
  /-- The colon after this name of the object with these fields. -/
  | colon (fields : Fields) (name : Option String)
  /-- A comma or the end, after this value. -/
  | after (value : Json)

/-- The open frames, innermost first, and what may come next. -/
structure Builder where
  frames : List Frame
  expected : Expected

namespace Builder

/-- A value begins or is one lexeme. -/
def onValue (frames : List Frame) : Lexeme → Option Builder
  | .scalar j => some ⟨frames, .after j⟩
  | .text (some s) => some ⟨frames, .after (.text s)⟩
  | .text none => some ⟨frames, .after .torn⟩
  | .openList => some ⟨.list [] :: frames, .firstItem⟩
  | .openObject => some ⟨frames, .firstName⟩
  | _ => none

def step (b : Builder) (l : Lexeme) : Option Builder :=
  match b.expected, l, b.frames with
  | .firstItem, .closeList, .list _ :: frames => some ⟨frames, .after (.list [])⟩
  | .firstItem, l, frames => onValue frames l
  | .value, l, frames => onValue frames l
  | .firstName, .closeObject, frames => some ⟨frames, .after (.object [])⟩
  | .firstName, .text name, frames => some ⟨frames, .colon (some []) name⟩
  | .name fields, .text name, frames => some ⟨frames, .colon fields name⟩
  | .colon fields name, .colon, frames => some ⟨.object fields name :: frames, .value⟩
  | .after j, .comma, .list items :: frames => some ⟨.list (j :: items) :: frames, .value⟩
  | .after j, .comma, .object fields name :: frames => some ⟨frames, .name (fields.push name j)⟩
  | .after j, .closeList, .list items :: frames =>
    some ⟨frames, .after (.list (j :: items).reverse)⟩
  | .after j, .closeObject, .object fields name :: frames =>
    some ⟨frames, .after (fields.push name j).close⟩
  | _, _, _ => none

/-- The value after the last lexeme. -/
def finish (b : Builder) : Option Json :=
  match b.frames, b.expected with
  | [], .after j => some j
  | _, _ => none

end Builder

/-- The value of a text, its parts as loosely read as parts that are passed over. -/
def readLoose? (text : String) : Option Json := do
  let b ← (← lexemes? text).foldlM Builder.step ⟨[], .value⟩
  b.finish

/-- The value of a document. -/
def read? (text : String) : Option Json := do
  let j ← readLoose? text
  if j.isSound maxDepth then return j else none

end CausalReplica.Json
