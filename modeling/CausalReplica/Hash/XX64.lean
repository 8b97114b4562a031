import CausalReplica.Hash.Chunks

/-!
# The 64-bit XXH hash

Input of thirty-two bytes or more is read in stripes of four lanes. The tail takes whole 64-bit
words first, then one 32-bit word if four bytes remain, then single bytes. All arithmetic is modulo
`2 ^ 64`, so that every replica computes the same fingerprint of the same bytes.
-/

namespace CausalReplica.XX64

def prime1 : UInt64 := 11400714785074694791
def prime2 : UInt64 := 14029467366897019727
def prime3 : UInt64 := 1609587929392839161
def prime4 : UInt64 := 9650029242287828579
def prime5 : UInt64 := 2870177450012600261

/-- Rotation to the left by `k` bits, `0 < k < 64`. -/
def rotl (w k : UInt64) : UInt64 := (w <<< k) ||| (w >>> (64 - k))

/-- One lane takes in one word. -/
def round (acc lane : UInt64) : UInt64 := rotl (acc + lane * prime2) 31 * prime1

/-- A finished lane is mixed into the joined sum. -/
def mergeRound (acc lane : UInt64) : UInt64 := (acc ^^^ round 0 lane) * prime1 + prime4

/-- The four running sums of the stripe phase. -/
structure Lanes where
  a : UInt64
  b : UInt64
  c : UInt64
  d : UInt64

namespace Lanes

/-- The lanes before the first stripe. -/
def start (seed : UInt64) : Lanes :=
  ⟨seed + prime1 + prime2, seed + prime2, seed, seed - prime1⟩

/-- Every lane takes its own word of a stripe of thirty-two bytes. -/
def absorb (l : Lanes) (stripe : Bytes) : Lanes :=
  ⟨round l.a stripe.word64, round l.b (Bytes.word64 (stripe.drop 8)),
    round l.c (Bytes.word64 (stripe.drop 16)), round l.d (Bytes.word64 (stripe.drop 24))⟩

/-- The lanes after the first `n` stripes of `bytes`. -/
def absorbAll : (n : Nat) → Lanes → Bytes → Lanes
  | 0, l, _ => l
  | n + 1, l, bytes => absorbAll n (l.absorb bytes) (bytes.drop 32)

/-- The lanes joined into one word. -/
def join (l : Lanes) : UInt64 :=
  let h := rotl l.a 1 + rotl l.b 7 + rotl l.c 12 + rotl l.d 18
  mergeRound (mergeRound (mergeRound (mergeRound h l.a) l.b) l.c) l.d

end Lanes

/-- The sum before the tail is read; short input skips the stripe phase. -/
def head (bytes : Bytes) (seed : UInt64) : UInt64 :=
  if 32 ≤ bytes.length then
    (Lanes.absorbAll (bytes.length / 32) (Lanes.start seed) bytes).join
  else
    seed + prime5

/-- The first `n` words of the tail are folded in. -/
def foldWords : (n : Nat) → UInt64 → Bytes → UInt64
  | 0, h, _ => h
  | n + 1, h, bytes =>
    foldWords n (rotl (h ^^^ round 0 bytes.word64) 27 * prime1 + prime4) (bytes.drop 8)

/-- One 32-bit word is folded in. -/
def foldHalf (h : UInt64) (bytes : Bytes) : UInt64 :=
  rotl (h ^^^ bytes.word32.toUInt64 * prime1) 23 * prime2 + prime3

/-- The last bytes are folded in one by one. -/
def foldBytes (h : UInt64) (bytes : Bytes) : UInt64 :=
  bytes.foldl (fun h b ↦ rotl (h ^^^ b.toUInt64 * prime5) 11 * prime1) h

/-- What follows the whole words: a 32-bit word if it fits, then single bytes. -/
def foldRest (h : UInt64) (bytes : Bytes) : UInt64 :=
  if 4 ≤ bytes.length then foldBytes (foldHalf h bytes) (bytes.drop 4) else foldBytes h bytes

def avalanche (h : UInt64) : UInt64 :=
  let h := (h ^^^ (h >>> 33)) * prime2
  let h := (h ^^^ (h >>> 29)) * prime3
  h ^^^ (h >>> 32)

/-- The 64-bit XXH hash of a byte string under a seed. -/
def hash (bytes : Bytes) (seed : UInt64) : UInt64 :=
  let tail := bytes.drop (bytes.length / 32 * 32)
  let words := tail.length / 8
  let h := head bytes seed + UInt64.ofNat bytes.length
  avalanche (foldRest (foldWords words h tail) (tail.drop (words * 8)))

/-! ## By chunks

The hash as a loop over the chunks of each phase. A read outside of a slice gives nothing. -/

/-- Every lane takes its own part of a stripe. -/
def Lanes.absorb? (l : Lanes) (stripe : Bytes) : Option Lanes := do
  let a ← Bytes.sliceWord64? stripe 0 8
  let b ← Bytes.sliceWord64? stripe 8 16
  let c ← Bytes.sliceWord64? stripe 16 24
  let d ← Bytes.sliceWord64? stripe 24 32
  return ⟨round l.a a, round l.b b, round l.c c, round l.d d⟩

/-- The sum before the tail is read, and the tail. -/
def head? (bytes : Bytes) (seed : UInt64) : Option (UInt64 × Bytes) :=
  if 32 ≤ bytes.length then do
    let (stripes, tail) := Bytes.chunksExact 32 bytes
    let lanes ← stripes.foldlM Lanes.absorb? (Lanes.start seed)
    return (lanes.join, tail)
  else return (seed + prime5, bytes)

def foldWord? (h : UInt64) (word : Bytes) : Option UInt64 := do
  return rotl (h ^^^ round 0 (← Bytes.readWord64? word)) 27 * prime1 + prime4

/-- What follows the whole words: a 32-bit word if it fits, then single bytes. -/
def foldRest? (h : UInt64) (bytes : Bytes) : Option UInt64 :=
  if 4 ≤ bytes.length then do
    let half ← Bytes.sliceWord32? bytes 0 4
    let last ← Bytes.slice? bytes 4 bytes.length
    return foldBytes (rotl (h ^^^ half.toUInt64 * prime1) 23 * prime2 + prime3) last
  else return foldBytes h bytes

/-- The 64-bit XXH hash by chunks. -/
def hashByChunks? (bytes : Bytes) (seed : UInt64) : Option UInt64 := do
  let (h, tail) ← head? bytes seed
  let (words, rest) := Bytes.chunksExact 8 tail
  let h ← words.foldlM foldWord? (h + UInt64.ofNat bytes.length)
  return avalanche (← foldRest? h rest)

/-! ## Texts -/

/-- The 64-bit XXH hash of the UTF-8 bytes of a text. -/
def hashText (text : String) (seed : UInt64) : UInt64 := hash text.toUTF8.toList seed

end CausalReplica.XX64
