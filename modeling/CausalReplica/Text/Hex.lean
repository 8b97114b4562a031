import CausalReplica.Hash.Word

/-!
# Hexadecimal text

Two lower-case digits per byte; digits of either case are read.
-/

namespace CausalReplica.Hex

/-- The lower-case digit of a value below sixteen. -/
def digit (n : Nat) : Char :=
  if n < 10 then Char.ofNat (n + '0'.toNat) else Char.ofNat (n - 10 + 'a'.toNat)

def value? (c : Char) : Option Nat :=
  if '0' ≤ c && c ≤ '9' then some (c.toNat - '0'.toNat)
  else if 'a' ≤ c && c ≤ 'f' then some (c.toNat - 'a'.toNat + 10)
  else if 'A' ≤ c && c ≤ 'F' then some (c.toNat - 'A'.toNat + 10)
  else none

/-- The two digits of a byte. -/
def byte (b : UInt8) : List Char := [digit (b.toNat / 16), digit (b.toNat % 16)]

def encode (bytes : Bytes) : List Char := bytes.flatMap byte

/-- The number that digits spell, most significant first; at least one digit is needed. -/
def number? (digits : List Char) : Option Nat :=
  if digits.isEmpty then none
  else digits.foldl (fun n c ↦ n.bind fun n ↦ (value? c).map (16 * n + ·)) (some 0)

/-- The byte string that pairs of digits spell. -/
def decode? : List Char → Option Bytes
  | [] => some []
  | a :: b :: rest => do return UInt8.ofNat (← number? [a, b]) :: (← decode? rest)
  | [_] => none

end CausalReplica.Hex
