import CausalReplica.Toml.Basic
import CausalReplica.Text.Decimal
import CausalReplica.Text.Hex

/-!
# TOML scalars

Texts come in four forms: with or without escapes, on one line or on several. A bare scalar is a
truth value, an integer of 64 bits in one of four bases, another number, or a date, a time or both.
-/

namespace CausalReplica.Toml

/-- A reader takes what it reads from the front of the characters. -/
abbrev Reading (α : Type) := List Char → Option (α × List Char)

/-- White space within a line. -/
def isSpace (c : Char) : Bool := c == ' ' || c == '\t'

/-- A character that may stand in a comment or in a text on one line. -/
def isPlain (c : Char) : Bool := c == '\t' || (0x20 ≤ c.toNat && c.toNat != 0x7f)

/-- The characters after the white space at the front. -/
def skipSpace (cs : List Char) : List Char := cs.dropWhile isSpace

/-- The characters after a line end at the front. -/
def lineEnd? : List Char → Option (List Char)
  | '\n' :: rest => some rest
  | '\r' :: '\n' :: rest => some rest
  | _ => none

/-- The characters after a comment at the front, if there is one; the line end stays. -/
def skipComment : List Char → Option (List Char)
  | '#' :: rest =>
    let after := rest.dropWhile isPlain
    if after.isEmpty || (lineEnd? after).isSome then some after else none
  | cs => some cs

/-! ## Texts -/

/-- The character of a code point, unless it is a surrogate or too large. -/
def scalar? (n : Nat) : Option Char :=
  if n < 0xd800 || (0xdfff < n && n < 0x110000) then some (Char.ofNat n) else none

/-- The character of a numbered escape. -/
def numbered? (digits : List Char) : Option Char := (Hex.number? digits).bind scalar?

/-- The character of a short escape. -/
def escaped? : Char → Option Char
  | '"' => some '"'
  | '\\' => some '\\'
  | 'b' => some '\x08'
  | 't' => some '\t'
  | 'n' => some '\n'
  | 'f' => some '\x0c'
  | 'r' => some '\r'
  | _ => none

/-- The rest of a text in double quotes on one line, with its characters so far, last first. -/
def basicText (seen : List Char) : Reading String
  | '"' :: rest => some (String.ofList seen.reverse, rest)
  | '\\' :: 'u' :: a :: b :: c :: d :: rest =>
    (numbered? [a, b, c, d]).bind fun x ↦ basicText (x :: seen) rest
  | '\\' :: 'U' :: a :: b :: c :: d :: e :: f :: g :: h :: rest =>
    (numbered? [a, b, c, d, e, f, g, h]).bind fun x ↦ basicText (x :: seen) rest
  | '\\' :: c :: rest => (escaped? c).bind fun x ↦ basicText (x :: seen) rest
  | c :: rest => if isPlain c then basicText (c :: seen) rest else none
  | [] => none

/-- The rest of a text in single quotes on one line. -/
def literalText (seen : List Char) : Reading String
  | '\'' :: rest => some (String.ofList seen.reverse, rest)
  | c :: rest => if isPlain c then literalText (c :: seen) rest else none
  | [] => none

/-- Only white space comes before the line end. -/
def endsLine (cs : List Char) : Bool := (lineEnd? (skipSpace cs)).isSome

/-- The rest of a text in triple double quotes. While `skipping`, white space and line ends are
dropped. Up to two quotes may stand before the closing ones. -/
def basicLines (skipping : Bool) (seen : List Char) : Reading String
  | '"' :: '"' :: '"' :: '"' :: '"' :: rest =>
    some (String.ofList ('"' :: '"' :: seen).reverse, rest)
  | '"' :: '"' :: '"' :: '"' :: rest => some (String.ofList ('"' :: seen).reverse, rest)
  | '"' :: '"' :: '"' :: rest => some (String.ofList seen.reverse, rest)
  | '\\' :: 'u' :: a :: b :: c :: d :: rest =>
    (numbered? [a, b, c, d]).bind fun x ↦ basicLines false (x :: seen) rest
  | '\\' :: 'U' :: a :: b :: c :: d :: e :: f :: g :: h :: rest =>
    (numbered? [a, b, c, d, e, f, g, h]).bind fun x ↦ basicLines false (x :: seen) rest
  | '\\' :: c :: rest =>
    if endsLine (c :: rest) then basicLines true seen (c :: rest)
    else (escaped? c).bind fun x ↦ basicLines false (x :: seen) rest
  | '\r' :: '\n' :: rest => basicLines skipping (if skipping then seen else '\n' :: seen) rest
  | '\n' :: rest => basicLines skipping (if skipping then seen else '\n' :: seen) rest
  | c :: rest =>
    if skipping && isSpace c then basicLines true seen rest
    else if isPlain c then basicLines false (c :: seen) rest
    else none
  | [] => none

/-- The rest of a text in triple single quotes. -/
def literalLines (seen : List Char) : Reading String
  | '\'' :: '\'' :: '\'' :: '\'' :: '\'' :: rest =>
    some (String.ofList ('\'' :: '\'' :: seen).reverse, rest)
  | '\'' :: '\'' :: '\'' :: '\'' :: rest => some (String.ofList ('\'' :: seen).reverse, rest)
  | '\'' :: '\'' :: '\'' :: rest => some (String.ofList seen.reverse, rest)
  | '\r' :: '\n' :: rest => literalLines ('\n' :: seen) rest
  | '\n' :: rest => literalLines ('\n' :: seen) rest
  | c :: rest => if isPlain c then literalLines (c :: seen) rest else none
  | [] => none

/-- The characters after the line end that may follow the opening of a text on several lines. -/
def skipFirstLineEnd (cs : List Char) : List Char := (lineEnd? cs).getD cs

/-- A text in any of the four forms. -/
def quoted : Reading String
  | '"' :: '"' :: '"' :: rest => basicLines false [] (skipFirstLineEnd rest)
  | '"' :: rest => basicText [] rest
  | '\'' :: '\'' :: '\'' :: rest => literalLines [] (skipFirstLineEnd rest)
  | '\'' :: rest => literalText [] rest
  | _ => none

/-! ## Numbers -/

/-- The digits between underscores, each of which has a digit on either side. -/
def ungrouped? (isDigit : Char → Bool) : List Char → Option (List Char)
  | [] => none
  | [c] => if isDigit c then some [c] else none
  | c :: '_' :: rest =>
    if isDigit c then (ungrouped? isDigit rest).map (c :: ·) else none
  | c :: rest => if isDigit c then (ungrouped? isDigit rest).map (c :: ·) else none

/-- The number that digits spell in a base. -/
def digitsIn (base : Nat) (digits : List Char) : Nat :=
  digits.foldl (fun n c ↦ base * n + (Hex.value? c).getD 0) 0

/-- An integer that fits into 64 bits. -/
def int64? (n : Int) : Option Toml :=
  if Int64.minValue.toInt ≤ n && n ≤ Int64.maxValue.toInt then some (.int n) else none

/-- An unsigned number in a base other than ten. -/
def based? (base : Nat) (cs : List Char) : Option Toml :=
  (ungrouped? (fun c ↦ ((Hex.value? c).getD 16) < base) cs).bind fun digits ↦
    int64? (digitsIn base digits)

/-- Decimal digits of which the first one is no zero, or a zero alone. -/
def whole? (cs : List Char) : Option (List Char) :=
  (ungrouped? Char.isDigit cs).filter fun digits ↦ digits.length = 1 || digits.head? != some '0'

/-- The characters without their sign, and whether it was a minus. -/
def unsigned : List Char → Bool × List Char
  | '-' :: rest => (true, rest)
  | '+' :: rest => (false, rest)
  | cs => (false, cs)

/-- An exponent of a number. -/
def isExponent (cs : List Char) : Bool := (ungrouped? Char.isDigit (unsigned cs).2).isSome

/-- A number with a fraction or an exponent, without its sign. -/
def isFloat (cs : List Char) : Bool :=
  let whole := cs.takeWhile fun c ↦ c != '.' && c != 'e' && c != 'E'
  let rest := cs.drop whole.length
  (whole? whole).isSome &&
    match rest with
    | '.' :: rest =>
      let part := rest.takeWhile fun c ↦ c != 'e' && c != 'E'
      (ungrouped? Char.isDigit part).isSome &&
        match rest.drop part.length with
        | [] => true
        | _ :: exponent => isExponent exponent
    | [] => false
    | _ :: exponent => isExponent exponent

/-- A number. One with a fraction or an exponent may not lie above the range of double precision,
but it may lie below. -/
def number? (cs : List Char) : Option Toml :=
  match cs with
  | '0' :: 'x' :: digits => based? 16 digits
  | '0' :: 'o' :: digits => based? 8 digits
  | '0' :: 'b' :: digits => based? 2 digits
  | cs =>
    let (negative, digits) := unsigned cs
    match whole? digits with
    | some digits =>
      let n : Int := digitsIn 10 digits
      int64? (if negative then -n else n)
    | none =>
      let known := digits = "inf".toList || digits = "nan".toList ||
        (isFloat digits && (negative || Decimal.isFinite digits))
      if known then some (.float (String.ofList cs)) else none

/-! ## Dates and times -/

/-- The two digits at the front, of a number from `low` to `high`. -/
def twoDigits? (low high : Nat) : Reading (List Char)
  | a :: b :: rest =>
    let n := digitsIn 10 [a, b]
    if a.isDigit && b.isDigit && low ≤ n && n ≤ high then some ([a, b], rest) else none
  | _ => none

/-- The number of days of a month. -/
def daysIn (year month : Nat) : Nat :=
  if month = 2 then if year % 4 = 0 && (year % 100 != 0 || year % 400 = 0) then 29 else 28
  else if month ∈ [4, 6, 9, 11] then 30
  else 31

/-- The date at the front. -/
def date? : Reading (List Char)
  | a :: b :: c :: d :: '-' :: rest => do
    let year := [a, b, c, d]
    if !(year.all Char.isDigit) then none
    let (month, rest) ← twoDigits? 1 12 rest
    let '-' :: rest := rest | none
    let (day, rest) ← twoDigits? 1 (daysIn (digitsIn 10 year) (digitsIn 10 month)) rest
    return (year ++ '-' :: month ++ '-' :: day, rest)
  | _ => none

/-- A fraction of a second to nine digits, without zeros at its end. -/
def secondFraction (digits : List Char) : List Char :=
  let kept := ((digits.take 9).reverse.dropWhile (· == '0')).reverse
  if kept.isEmpty then [] else '.' :: kept

/-- The time of day at the front. -/
def clock? : Reading (List Char) := fun cs ↦ do
  let (hour, rest) ← twoDigits? 0 23 cs
  let ':' :: rest := rest | none
  let (minute, rest) ← twoDigits? 0 59 rest
  let ':' :: rest := rest | none
  let (second, rest) ← twoDigits? 0 60 rest
  let clock := hour ++ ':' :: minute ++ ':' :: second
  match rest with
  | '.' :: part =>
    let digits := part.takeWhile Char.isDigit
    if digits.isEmpty then none
    else return (clock ++ secondFraction digits, part.dropWhile Char.isDigit)
  | rest => return (clock, rest)

/-- The offset of a time zone at the front, if there is one. An offset of nothing has a plus. -/
def offset? : Reading (List Char)
  | 'Z' :: rest => some (['Z'], rest)
  | 'z' :: rest => some (['Z'], rest)
  | sign :: rest =>
    if sign == '+' || sign == '-' then do
      let (hours, rest) ← twoDigits? 0 23 rest
      let ':' :: rest := rest | none
      let (minutes, rest) ← twoDigits? 0 59 rest
      let sign := if digitsIn 10 (hours ++ minutes) = 0 then '+' else sign
      return (sign :: hours ++ ':' :: minutes, rest)
    else some ([], sign :: rest)
  | [] => some ([], [])

/-- The text of a date, a time of day, or a date and a time of day with or without an offset, which
all characters spell. -/
def time? (cs : List Char) : Option (List Char) :=
  match date? cs with
  | some (date, []) => some date
  | some (date, c :: rest) => do
    if !(c == 'T' || c == 't' || c == ' ') then none
    let (clock, rest) ← clock? rest
    let (offset, []) ← offset? rest | none
    return date ++ 'T' :: clock ++ offset
  | none => do
    let (clock, []) ← clock? cs | none
    return clock

/-! ## Bare scalars -/

/-- A character of a bare scalar. -/
def isScalarChar (c : Char) : Bool := isBareChar c || c == '+' || c == '.' || c == ':'

/-- A date at the front is followed by one space and a digit, so that a time of day belongs to it.
-/
def bareLength (cs : List Char) : Nat :=
  let n := (cs.takeWhile isScalarChar).length
  match date? cs, cs.drop n with
  | some (_, ' ' :: _), ' ' :: c :: rest =>
    if n = 10 && c.isDigit then n + 1 + ((c :: rest).takeWhile isScalarChar).length else n
  | _, _ => n

def bare : Reading Toml := fun cs ↦ do
  let n := bareLength cs
  let word := cs.take n
  let rest := cs.drop n
  if word = "true".toList then return (.bool true, rest)
  if word = "false".toList then return (.bool false, rest)
  match time? word with
  | some t => return (.time (String.ofList t), rest)
  | none => return (← number? word, rest)

end CausalReplica.Toml
