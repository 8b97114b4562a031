/-!
# Time spans

A span is a whole number of nanoseconds. For inspection it is shown in the largest of the units
`s`, `ms`, `µs` and `ns` in which its whole part is not zero, with an exact decimal fraction.
-/

namespace CausalReplica

structure Span where
  nanos : Nat
  deriving DecidableEq, Repr

namespace Span

/-- Nanoseconds in a microsecond, a millisecond and a second. -/
def perMicro : Nat := 1000
def perMilli : Nat := 1000000
def perSecond : Nat := 1000000000

def ofMillis (n : Nat) : Span := ⟨n * perMilli⟩
def ofSeconds (n : Nat) : Span := ⟨n * perSecond⟩

def millis (s : Span) : Nat := s.nanos / perMilli

def seconds (s : Span) : Nat := s.nanos / perSecond

instance : Add Span := ⟨fun a b ↦ ⟨a.nanos + b.nanos⟩⟩

/-- `part` of `places` decimal digits as a fraction without trailing zeros, empty for zero. -/
def fraction (part places : Nat) : List Char :=
  let digits := Nat.toDigits 10 part
  let padded := List.replicate (places - digits.length) '0' ++ digits
  let kept := (padded.reverse.dropWhile (· == '0')).reverse
  if kept.isEmpty then [] else '.' :: kept

/-- `n` counted in a unit of `10 ^ places`. -/
def inUnit (n places : Nat) (unit : String) : String :=
  let size := Nat.pow 10 places
  toString (n / size) ++ String.ofList (fraction (n % size) places) ++ unit

def inspect (s : Span) : String :=
  if perSecond ≤ s.nanos then inUnit s.nanos 9 "s"
  else if perMilli ≤ s.nanos then inUnit s.nanos 6 "ms"
  else if perMicro ≤ s.nanos then inUnit s.nanos 3 "µs"
  else inUnit s.nanos 0 "ns"

end Span

end CausalReplica
