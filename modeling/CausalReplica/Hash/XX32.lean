import CausalReplica.Hash.Chunks

/-!
# The 32-bit XXH hash

Input of sixteen bytes or more is read in stripes of four lanes; what is left over is folded in word
by word, then byte by byte, and the result is scrambled. All arithmetic is modulo `2 ^ 32`, so the
value is the same on every machine.
-/

namespace CausalReplica.XX32

def prime1 : UInt32 := 2654435761
def prime2 : UInt32 := 2246822519
def prime3 : UInt32 := 3266489917
def prime4 : UInt32 := 668265263
def prime5 : UInt32 := 374761393

/-- Rotation to the left by `k` bits, `0 < k < 32`. -/
def rotl (w k : UInt32) : UInt32 := (w <<< k) ||| (w >>> (32 - k))

/-- One lane takes in one word. -/
def round (acc lane : UInt32) : UInt32 := rotl (acc + lane * prime2) 13 * prime1

/-- The four running sums of the stripe phase. -/
structure Lanes where
  a : UInt32
  b : UInt32
  c : UInt32
  d : UInt32

namespace Lanes

/-- The lanes before the first stripe. -/
def start (seed : UInt32) : Lanes :=
  ⟨seed + prime1 + prime2, seed + prime2, seed, seed - prime1⟩

/-- Every lane takes its own word of a sixteen-byte stripe. -/
def absorb (l : Lanes) (stripe : Bytes) : Lanes :=
  ⟨round l.a stripe.word32, round l.b (Bytes.word32 (stripe.drop 4)),
    round l.c (Bytes.word32 (stripe.drop 8)), round l.d (Bytes.word32 (stripe.drop 12))⟩

/-- The lanes after the first `n` stripes of `bytes`. -/
def absorbAll : (n : Nat) → Lanes → Bytes → Lanes
  | 0, l, _ => l
  | n + 1, l, bytes => absorbAll n (l.absorb bytes) (bytes.drop 16)

/-- The lanes joined into one word. -/
def join (l : Lanes) : UInt32 := rotl l.a 1 + rotl l.b 7 + rotl l.c 12 + rotl l.d 18

end Lanes

/-- The sum before the tail is read; short input skips the stripe phase. -/
def head (bytes : Bytes) (seed : UInt32) : UInt32 :=
  if 16 ≤ bytes.length then
    (Lanes.absorbAll (bytes.length / 16) (Lanes.start seed) bytes).join
  else
    seed + prime5

/-- The first `n` words of the tail are folded in. -/
def foldWords : (n : Nat) → UInt32 → Bytes → UInt32
  | 0, h, _ => h
  | n + 1, h, bytes => foldWords n (rotl (h + bytes.word32 * prime3) 17 * prime4) (bytes.drop 4)

/-- The last bytes are folded in one by one. -/
def foldBytes (h : UInt32) (bytes : Bytes) : UInt32 :=
  bytes.foldl (fun h b ↦ rotl (h + b.toUInt32 * prime5) 11 * prime1) h

def avalanche (h : UInt32) : UInt32 :=
  let h := (h ^^^ (h >>> 15)) * prime2
  let h := (h ^^^ (h >>> 13)) * prime3
  h ^^^ (h >>> 16)

/-- The 32-bit XXH hash of a byte string under a seed. -/
def hash (bytes : Bytes) (seed : UInt32) : UInt32 :=
  let tail := bytes.drop (bytes.length / 16 * 16)
  let words := tail.length / 4
  let h := head bytes seed + UInt32.ofNat bytes.length
  avalanche (foldBytes (foldWords words h tail) (tail.drop (words * 4)))

/-! ## By chunks

The hash as a loop over the chunks of each phase. A read outside of a slice gives nothing. -/

/-- Every lane takes its own part of a stripe. -/
def Lanes.absorb? (l : Lanes) (stripe : Bytes) : Option Lanes := do
  let a ← Bytes.sliceWord32? stripe 0 4
  let b ← Bytes.sliceWord32? stripe 4 8
  let c ← Bytes.sliceWord32? stripe 8 12
  let d ← Bytes.sliceWord32? stripe 12 16
  return ⟨round l.a a, round l.b b, round l.c c, round l.d d⟩

/-- The sum before the tail is read, and the tail. -/
def head? (bytes : Bytes) (seed : UInt32) : Option (UInt32 × Bytes) :=
  if 16 ≤ bytes.length then do
    let (stripes, tail) := Bytes.chunksExact 16 bytes
    let lanes ← stripes.foldlM Lanes.absorb? (Lanes.start seed)
    return (lanes.join, tail)
  else return (seed + prime5, bytes)

def foldWord? (h : UInt32) (word : Bytes) : Option UInt32 := do
  return rotl (h + (← Bytes.readWord32? word) * prime3) 17 * prime4

/-- The 32-bit XXH hash by chunks. -/
def hashByChunks? (bytes : Bytes) (seed : UInt32) : Option UInt32 := do
  let (h, tail) ← head? bytes seed
  let (words, rest) := Bytes.chunksExact 4 tail
  let h ← words.foldlM foldWord? (h + UInt32.ofNat bytes.length)
  return avalanche (foldBytes h rest)

end CausalReplica.XX32
