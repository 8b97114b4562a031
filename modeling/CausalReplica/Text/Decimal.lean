/-!
# Decimal notation

A number is written with decimal digits, between which a point may stand, and with an exponent of
ten behind them. Digits may be grouped. Whether such a number has a value of double precision is
decided in whole numbers, in two ways: for its exact value, and for the product of its leading
digits with a power of ten when each of the two is rounded first.
-/

namespace CausalReplica.Decimal

def ofDigits (digits : List Char) : Nat :=
  digits.foldl (fun n c ↦ 10 * n + (c.toNat - '0'.toNat)) 0

/-- A written number, whatever its sign, in its parts: the digits before its point, those behind it,
and its exponent. -/
structure Written where
  whole : List Char
  part : List Char
  exponent : Int

/-- The parts of a written number. -/
def Written.ofChars (cs : List Char) : Written :=
  let mantissa := cs.takeWhile fun c ↦ c != 'e' && c != 'E'
  let exponent := cs.drop (mantissa.length + 1)
  let size : Int := ofDigits (exponent.filter Char.isDigit)
  ⟨(mantissa.takeWhile (· != '.')).filter Char.isDigit,
    (mantissa.dropWhile (· != '.')).filter Char.isDigit,
    if exponent.head? == some '-' then -size else size⟩

/-! ## The exact value -/

/-- The least number that rounds to no finite value of double precision. -/
def finiteBound : Nat := (1 <<< 1024) - (1 <<< 970)

/-- A written number, whatever its sign, rounds to a finite value of double precision. -/
def isFinite (cs : List Char) : Bool :=
  let w := Written.ofChars cs
  let e := w.exponent - w.part.length
  let digits := (w.whole ++ w.part).dropWhile (· == '0')
  let places : Int := digits.length + e
  if digits.isEmpty || places < 309 then true
  else if 309 < places then false
  else if 0 ≤ e then ofDigits digits * Nat.pow 10 e.toNat < finiteBound
  else ofDigits digits < finiteBound * Nat.pow 10 (-e).toNat

/-! ## The leading digits and a power of ten -/

/-- The number rounded to 53 binary digits, a half going to the even neighbour. -/
def roundDouble (n : Nat) : Nat :=
  let dropped := n.log2 - 52
  let kept := n >>> dropped
  let rest := 2 * (n - kept <<< dropped)
  let unit := 1 <<< dropped
  if unit < rest || (unit = rest && kept % 2 = 1) then (kept + 1) <<< dropped
  else kept <<< dropped

/-- The number with one more digit, if it fits into 64 bits. -/
def pushDigit? (n : Nat) (c : Char) : Option Nat :=
  let more := 10 * n + (c.toNat - '0'.toNat)
  if more < UInt64.size then some more else none

/-- The number that the leading digits behind `n` lead to, and the digits that no longer fit. -/
def pushLeading (n : Nat) : List Char → Nat × List Char
  | [] => (n, [])
  | c :: rest =>
    match pushDigit? n c with
    | some more => pushLeading more rest
    | none => (n, c :: rest)

/-- The leading digits of a written number as a number of 64 bits, and the power of ten it counts.
Digits before the point that do not fit are counted, those behind it are passed over. -/
def leading (w : Written) : Nat × Int :=
  let (n, more) := pushLeading 0 w.whole
  let (n, unread) := pushLeading n w.part
  (n, w.exponent + more.length - (w.part.length - unread.length : Nat))

/-- The product of a written number's leading digits and their power of ten, each rounded to double
precision, rounds to a finite value. -/
def isProductFinite (cs : List Char) : Bool :=
  let (n, e) := leading (Written.ofChars cs)
  if n = 0 || e < 0 then true
  else if 308 < e then false
  else roundDouble n * roundDouble (Nat.pow 10 e.toNat) < finiteBound

end CausalReplica.Decimal
