import CausalReplica.Span.Basic
import CausalReplica.Text.Blank

/-!
# Spans in human notation

A span is written as a sum such as `1day 2h 5ms`, in units from years down to nanoseconds. Reading
takes one or more numbers with a unit each, and `0` alone. A number may have a decimal fraction,
which has to come out even: at a whole number of nanoseconds for units up to the minute, of seconds
for larger ones. Blanks may stand anywhere but inside a unit, and inside a number they are passed
over. A number, a product with its unit or a sum past 64 bits is refused, but for one sum: that of
nanoseconds which come to exactly one second while no further second fits is an overflow.
-/

namespace CausalReplica.Span

/-! ## Writing -/

/-- The units that are written, with their nanoseconds and whether the name has a plural. -/
def writtenUnits : List (String × Nat × Bool) := [
  ("year", 31557600 * perSecond, true), ("month", 2630016 * perSecond, true),
  ("day", 86400 * perSecond, true), ("h", 3600 * perSecond, false), ("m", 60 * perSecond, false),
  ("s", perSecond, false), ("ms", perMilli, false), ("us", perMicro, false), ("ns", 1, false)]

/-- The parts of `n` nanoseconds in the given units, largest unit first. -/
def humanParts : List (String × Nat × Bool) → Nat → List String
  | [], _ => []
  | (name, size, plural) :: units, n =>
    let count := n / size
    let rest := humanParts units (n % size)
    if count = 0 then rest
    else (toString count ++ name ++ if plural && 1 < count then "s" else "") :: rest

def human (s : Span) : String :=
  if s.nanos = 0 then "0s" else String.intercalate " " (humanParts writtenUnits s.nanos)

/-! ## Reading -/

/-- Why a text names no span. -/
inductive ParseError where
  | malformed
  /-- The nanoseconds of a sum come to one more second than the seconds have room for. -/
  | overflow
  deriving DecidableEq

/-- How many nanoseconds or seconds one of a unit is. -/
inductive Scale where
  | nanos (count : Nat)
  | seconds (count : Nat)

def unit? (name : String) : Option Scale :=
  if name ∈ ["nanos", "nsec", "ns"] then some (.nanos 1)
  else if name ∈ ["usec", "us", "µs"] then some (.nanos perMicro)
  else if name ∈ ["millis", "msec", "ms"] then some (.nanos perMilli)
  else if name ∈ ["seconds", "second", "secs", "sec", "s"] then some (.seconds 1)
  else if name ∈ ["minutes", "minute", "mins", "min", "m"] then some (.seconds 60)
  else if name ∈ ["hours", "hour", "hrs", "hr", "h"] then some (.seconds 3600)
  else if name ∈ ["days", "day", "d"] then some (.seconds 86400)
  else if name ∈ ["weeks", "week", "wks", "wk", "w"] then some (.seconds 604800)
  else if name ∈ ["months", "month", "M"] then some (.seconds 2630016)
  else if name ∈ ["years", "year", "yrs", "yr", "y"] then some (.seconds 31557600)
  else none

/-- A number that fits into 64 bits. -/
def fit (n : Nat) : Except ParseError Nat := if n < UInt64.size then .ok n else .error .malformed

/-- The span with `n` of a unit added. -/
def addUnits (s : Span) (n : Nat) : Scale → Except ParseError Span
  | .nanos count => do
    let more ← fit (n * count)
    let below ← fit (s.nanos % perSecond + more)
    if below = perSecond && UInt64.size ≤ s.seconds + 1 then throw .overflow
    let whole ← fit (s.seconds + below / perSecond)
    return ⟨whole * perSecond + below % perSecond⟩
  | .seconds count => do
    let more ← fit (n * count)
    let whole ← fit (s.seconds + more)
    return ⟨whole * perSecond + s.nanos % perSecond⟩

/-- The digits after a point: `numerator` over a power of ten. -/
structure Fraction where
  numerator : Nat
  denominator : Nat

/-- The fraction with one more digit. -/
def Fraction.push (f : Fraction) (digit : Nat) : Except ParseError Fraction := do
  return ⟨← fit (10 * f.numerator + digit), ← fit (10 * f.denominator)⟩

/-- The fraction of `count`, which has to be a whole number. -/
def Fraction.of (f : Fraction) (count : Nat) : Except ParseError Nat := do
  let product ← fit (f.numerator * count)
  if product % f.denominator = 0 then return product / f.denominator else throw .malformed

/-- The span with a fraction of a unit added. A nanosecond has no fractions; those of units up to
the minute are counted in nanoseconds, those of larger ones in seconds. -/
def addFraction (s : Span) (f : Fraction) : Scale → Except ParseError Span
  | .nanos count => do
    if count = 1 then throw .malformed
    s.addUnits (← f.of count) (.nanos 1)
  | .seconds count => do
    if count ≤ 60 then s.addUnits (← f.of (count * perSecond)) (.nanos 1)
    else s.addUnits (← f.of count) (.seconds 1)

/-- A number before its unit. -/
structure Amount where
  whole : Nat
  part : Option Fraction

/-- Where a reader stands: before a number, in its whole part, after its point, or in a unit, with
its letters last first. -/
inductive Stage where
  | between
  | number (n : Nat)
  | fraction (n : Nat) (part : Fraction)
  | unit (amount : Amount) (letters : List Char)

def isUnitChar (c : Char) : Bool := c.isAlpha || c == 'µ'

def digitValue (c : Char) : Nat := c.toNat - '0'.toNat

/-- The span with an amount of a finished unit added. -/
def close (s : Span) (amount : Amount) (letters : List Char) : Except ParseError Span := do
  let some scale := unit? (String.ofList letters.reverse) | throw .malformed
  let s ← s.addUnits amount.whole scale
  match amount.part with
  | none => return s
  | some f => s.addFraction f scale

def readChar (state : Span × Stage) (c : Char) : Except ParseError (Span × Stage) :=
  match state with
  | (s, .between) =>
    if c.isDigit then .ok (s, .number (digitValue c))
    else if Text.isBlank c then .ok (s, .between)
    else .error .malformed
  | (s, .number n) =>
    if c.isDigit then (fit (10 * n + digitValue c)).map fun n ↦ (s, .number n)
    else if Text.isBlank c then .ok (s, .number n)
    else if c = '.' then .ok (s, .fraction n ⟨0, 1⟩)
    else if isUnitChar c then .ok (s, .unit ⟨n, none⟩ [c])
    else .error .malformed
  | (s, .fraction n f) =>
    if c.isDigit then (f.push (digitValue c)).map fun f ↦ (s, .fraction n f)
    else if Text.isBlank c then .ok (s, .fraction n f)
    else if isUnitChar c && f.denominator ≠ 1 then .ok (s, .unit ⟨n, some f⟩ [c])
    else .error .malformed
  | (s, .unit amount letters) =>
    if c.isDigit then (s.close amount letters).map (·, .number (digitValue c))
    else if Text.isBlank c then (s.close amount letters).map (·, .between)
    else if isUnitChar c then .ok (s, .unit amount (c :: letters))
    else .error .malformed

/-- The span that a text in human notation names. -/
def parse (text : String) : Except ParseError Span := do
  if text = "0" then return ⟨0⟩
  if text.toList.all Text.isBlank then throw .malformed
  match ← text.toList.foldlM readChar (⟨0⟩, .between) with
  | (s, .between) => return s
  | (_, .number _) => throw .malformed
  | (_, .fraction _ _) => throw .malformed
  | (s, .unit amount letters) => s.close amount letters

end CausalReplica.Span
