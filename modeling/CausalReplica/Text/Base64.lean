import CausalReplica.Hash.Word

/-!
# Base64

The standard alphabet with required padding. Reading accepts exactly what writing produces: blanks,
missing padding and bits that no byte uses are refused.
-/

namespace CausalReplica.Base64

/-- The character of a value below sixty-four. -/
def char (n : Nat) : Char :=
  if n < 26 then Char.ofNat (n + 'A'.toNat)
  else if n < 52 then Char.ofNat (n - 26 + 'a'.toNat)
  else if n < 62 then Char.ofNat (n - 52 + '0'.toNat)
  else if n = 62 then '+'
  else '/'

/-- The value of a character of the alphabet. -/
def value? (c : Char) : Option Nat :=
  if 'A' ≤ c && c ≤ 'Z' then some (c.toNat - 'A'.toNat)
  else if 'a' ≤ c && c ≤ 'z' then some (c.toNat - 'a'.toNat + 26)
  else if '0' ≤ c && c ≤ '9' then some (c.toNat - '0'.toNat + 52)
  else if c = '+' then some 62
  else if c = '/' then some 63
  else none

/-- The four characters of up to three bytes, of which `count` are there. -/
def group (count x y z : Nat) : List Char :=
  let n := x * 65536 + y * 256 + z
  [char (n / 262144), char (n / 4096 % 64), if count < 2 then '=' else char (n / 64 % 64),
    if count < 3 then '=' else char (n % 64)]

/-- The characters of `bytes`, last first, in front of `seen`. -/
def encodeOnto (seen : List Char) : Bytes → List Char
  | [] => seen
  | [x] => (group 1 x.toNat 0 0).reverse ++ seen
  | [x, y] => (group 2 x.toNat y.toNat 0).reverse ++ seen
  | x :: y :: z :: rest =>
    encodeOnto ((group 3 x.toNat y.toNat z.toNat).reverse ++ seen) rest

/-- The Base64 text of a byte string. -/
def encode (bytes : Bytes) : String := String.ofList (encodeOnto [] bytes).reverse

/-- The bytes that characters spell, last first, in front of `seen`. -/
def decodeOnto (seen : Bytes) : List Char → Option Bytes
  | [] => some seen
  | [a, b, '=', '='] => do
    let n := (← value? a) * 64 + (← value? b)
    if n % 16 = 0 then some (UInt8.ofNat (n / 16) :: seen) else none
  | [a, b, c, '='] => do
    let n := (← value? a) * 4096 + (← value? b) * 64 + (← value? c)
    if n % 4 = 0 then some (UInt8.ofNat (n / 4) :: UInt8.ofNat (n / 1024) :: seen) else none
  | a :: b :: c :: d :: rest => do
    let n := (← value? a) * 262144 + (← value? b) * 4096 + (← value? c) * 64 + (← value? d)
    decodeOnto (UInt8.ofNat n :: UInt8.ofNat (n / 256) :: UInt8.ofNat (n / 65536) :: seen) rest
  | _ => none

def decode? (s : String) : Option Bytes := (decodeOnto [] s.toList).map List.reverse

end CausalReplica.Base64
