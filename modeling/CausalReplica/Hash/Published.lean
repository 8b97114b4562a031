import CausalReplica.Hash.Word
import Mathlib.Algebra.GroupWithZero.Nat

/-!
# The XXH hashes as they are published

Both hashes as functions of byte positions. Words are bit vectors, so that arithmetic is modulo
`2 ^ 32` or `2 ^ 64`, and so is the length where it is added. Nothing is cut off here and nothing is
left over: lane `k` reads its word of stripe `s` at its own position, and every byte behind the last
whole stripe is found by the length alone.
-/

namespace CausalReplica

/-- The word whose `count` bytes stand from a position on, the lowest first. -/
def Bytes.wordAt (w count : Nat) (bytes : Bytes) (position : Nat) : BitVec w :=
  BitVec.ofNat w
    ((List.range count).map fun k ↦ (bytes.getD (position + k) 0).toNat * 256 ^ k).sum

namespace XX32.Published

open Bytes (wordAt)

def prime1 : BitVec 32 := 0x9E3779B1
def prime2 : BitVec 32 := 0x85EBCA77
def prime3 : BitVec 32 := 0xC2B2AE3D
def prime4 : BitVec 32 := 0x27D4EB2F
def prime5 : BitVec 32 := 0x165667B1

def round (acc word : BitVec 32) : BitVec 32 := (acc + word * prime2).rotateLeft 13 * prime1

/-- Lane `k` after all stripes of sixteen bytes. -/
def lane (bytes : Bytes) (k : Nat) (start : BitVec 32) : BitVec 32 :=
  (List.range (bytes.length / 16)).foldl
    (fun acc s ↦ round acc (wordAt 32 4 bytes (16 * s + 4 * k))) start

/-- The sum of the lanes; without a stripe there is only the seed. -/
def head (bytes : Bytes) (seed : BitVec 32) : BitVec 32 :=
  if 16 ≤ bytes.length then
    (lane bytes 0 (seed + prime1 + prime2)).rotateLeft 1 +
      (lane bytes 1 (seed + prime2)).rotateLeft 7 + (lane bytes 2 seed).rotateLeft 12 +
      (lane bytes 3 (seed - prime1)).rotateLeft 18
  else seed + prime5

def takeWord (h word : BitVec 32) : BitVec 32 := (h + word * prime3).rotateLeft 17 * prime4

def takeByte (h byte : BitVec 32) : BitVec 32 := (h + byte * prime5).rotateLeft 11 * prime1

def avalanche (h : BitVec 32) : BitVec 32 :=
  let h := (h ^^^ h >>> 15) * prime2
  let h := (h ^^^ h >>> 13) * prime3
  h ^^^ h >>> 16

/-- Behind the stripes come the whole words, then the last bytes. -/
def hash (bytes : Bytes) (seed : BitVec 32) : BitVec 32 :=
  let length := bytes.length
  let h := head bytes seed + BitVec.ofNat 32 length
  let h := (List.range (length % 16 / 4)).foldl
    (fun h j ↦ takeWord h (wordAt 32 4 bytes (length / 16 * 16 + 4 * j))) h
  let h := (List.range (length % 4)).foldl
    (fun h j ↦ takeByte h (wordAt 32 1 bytes (length / 4 * 4 + j))) h
  avalanche h

example : hash [] 0 = 0x02CC5D05 ∧ hash [0x61, 0x62, 0x63] 0 = 0x32D153FF := by decide

end XX32.Published

namespace XX64.Published

open Bytes (wordAt)

def prime1 : BitVec 64 := 0x9E3779B185EBCA87
def prime2 : BitVec 64 := 0xC2B2AE3D27D4EB4F
def prime3 : BitVec 64 := 0x165667B19E3779F9
def prime4 : BitVec 64 := 0x85EBCA77C2B2AE63
def prime5 : BitVec 64 := 0x27D4EB2F165667C5

def round (acc word : BitVec 64) : BitVec 64 := (acc + word * prime2).rotateLeft 31 * prime1

/-- A finished lane is mixed into the sum of the lanes. -/
def mergeRound (acc lane : BitVec 64) : BitVec 64 := (acc ^^^ round 0 lane) * prime1 + prime4

/-- Lane `k` after all stripes of thirty-two bytes. -/
def lane (bytes : Bytes) (k : Nat) (start : BitVec 64) : BitVec 64 :=
  (List.range (bytes.length / 32)).foldl
    (fun acc s ↦ round acc (wordAt 64 8 bytes (32 * s + 8 * k))) start

/-- The sum of the lanes, with every lane mixed in once more; without a stripe there is only the
seed. -/
def head (bytes : Bytes) (seed : BitVec 64) : BitVec 64 :=
  if 32 ≤ bytes.length then
    let a := lane bytes 0 (seed + prime1 + prime2)
    let b := lane bytes 1 (seed + prime2)
    let c := lane bytes 2 seed
    let d := lane bytes 3 (seed - prime1)
    let h := a.rotateLeft 1 + b.rotateLeft 7 + c.rotateLeft 12 + d.rotateLeft 18
    mergeRound (mergeRound (mergeRound (mergeRound h a) b) c) d
  else seed + prime5

def takeWord (h word : BitVec 64) : BitVec 64 :=
  (h ^^^ round 0 word).rotateLeft 27 * prime1 + prime4

def takeHalf (h half : BitVec 64) : BitVec 64 :=
  (h ^^^ half * prime1).rotateLeft 23 * prime2 + prime3

def takeByte (h byte : BitVec 64) : BitVec 64 := (h ^^^ byte * prime5).rotateLeft 11 * prime1

def avalanche (h : BitVec 64) : BitVec 64 :=
  let h := (h ^^^ h >>> 33) * prime2
  let h := (h ^^^ h >>> 29) * prime3
  h ^^^ h >>> 32

/-- Behind the stripes come the whole words, then a half word if there are four more bytes, then the
last bytes. -/
def hash (bytes : Bytes) (seed : BitVec 64) : BitVec 64 :=
  let length := bytes.length
  let h := head bytes seed + BitVec.ofNat 64 length
  let h := (List.range (length % 32 / 8)).foldl
    (fun h j ↦ takeWord h (wordAt 64 8 bytes (length / 32 * 32 + 8 * j))) h
  let h := if 4 ≤ length % 8 then takeHalf h (wordAt 64 4 bytes (length / 8 * 8)) else h
  let h := (List.range (length % 4)).foldl
    (fun h j ↦ takeByte h (wordAt 64 1 bytes (length / 4 * 4 + j))) h
  avalanche h

example : hash [] 0 = 0xEF46DB3751D8E999 ∧ hash [0x61, 0x62, 0x63] 0 = 0x44BC2CF5AD770999 := by
  decide

end XX64.Published

end CausalReplica
