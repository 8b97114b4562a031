import CausalReplica.Hash.Word

/-!
# UTF-8

The bytes of a text, and the text of any bytes: where bytes are no UTF-8, every longest start of a
character, or else the single byte, is read as the replacement character.
-/

namespace CausalReplica.Utf8

def encode (s : String) : Bytes := s.toUTF8.toList

/-- The character that stands for bytes that are no UTF-8. -/
def replacement : Char := '\ufffd'

/-- A byte that continues a character. -/
def isTail (b : UInt8) : Bool := 0x80 ≤ b && b ≤ 0xbf

/-- Byte `t` may follow the first byte `b` of a character of three or four bytes. -/
def isSecond (b t : UInt8) : Bool :=
  if b = 0xe0 then 0xa0 ≤ t && t ≤ 0xbf
  else if b = 0xed then 0x80 ≤ t && t ≤ 0x9f
  else if b = 0xf0 then 0x90 ≤ t && t ≤ 0xbf
  else if b = 0xf4 then 0x80 ≤ t && t ≤ 0x8f
  else isTail t

/-- The low six bits of a continuing byte. -/
def tailBits (t : UInt8) : Nat := t.toNat % 64

/-- The character that starts with byte `b`, and how many of the bytes after it belong to it. -/
def front (b : UInt8) (rest : Bytes) : Char × Nat :=
  if b < 0x80 then
    (Char.ofNat b.toNat, 0)
  else if 0xc2 ≤ b && b ≤ 0xdf then
    match rest with
    | t :: _ =>
      if isTail t then (Char.ofNat (b.toNat % 32 * 64 + tailBits t), 1) else (replacement, 0)
    | [] => (replacement, 0)
  else if 0xe0 ≤ b && b ≤ 0xef then
    match rest with
    | t :: u :: _ =>
      if isSecond b t then
        if isTail u then
          (Char.ofNat (b.toNat % 16 * 4096 + tailBits t * 64 + tailBits u), 2)
        else (replacement, 1)
      else (replacement, 0)
    | [t] => (replacement, if isSecond b t then 1 else 0)
    | [] => (replacement, 0)
  else if 0xf0 ≤ b && b ≤ 0xf4 then
    match rest with
    | t :: u :: v :: _ =>
      if isSecond b t then
        if isTail u then
          if isTail v then
            let low := tailBits t * 4096 + tailBits u * 64 + tailBits v
            (Char.ofNat (b.toNat % 8 * 262144 + low), 3)
          else (replacement, 2)
        else (replacement, 1)
      else (replacement, 0)
    | [t, u] => (replacement, if isSecond b t then (if isTail u then 2 else 1) else 0)
    | [t] => (replacement, if isSecond b t then 1 else 0)
    | [] => (replacement, 0)
  else
    (replacement, 0)

/-- The characters of `bytes`, last first, in front of `seen`. -/
def decodeOnto (seen : List Char) : Bytes → List Char
  | [] => seen
  | b :: rest =>
    let (c, width) := front b rest
    decodeOnto (c :: seen) (rest.drop width)
  termination_by bytes => bytes.length
  decreasing_by simp only [List.length_drop, List.length_cons]; omega

/-- The text of a byte string, with replacement characters where it is no UTF-8. -/
def decode (bytes : Bytes) : String := String.ofList (decodeOnto [] bytes).reverse

end CausalReplica.Utf8
