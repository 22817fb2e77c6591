/-!
# The SHA-256 digest

The message is padded to whole blocks of 64 bytes and each block is mixed into eight 32-bit words.
-/

namespace FlagKeeper

namespace Sha256

/-- The eight words before the first block. -/
def initialWords : List UInt32 :=
  [0x6a09e667, 0xbb67ae85, 0x3c6ef372, 0xa54ff53a, 0x510e527f, 0x9b05688c, 0x1f83d9ab, 0x5be0cd19]

/-- The constant of each of the 64 rounds. -/
def roundConstants : List UInt32 :=
  [0x428a2f98, 0x71374491, 0xb5c0fbcf, 0xe9b5dba5, 0x3956c25b, 0x59f111f1, 0x923f82a4, 0xab1c5ed5,
    0xd807aa98, 0x12835b01, 0x243185be, 0x550c7dc3, 0x72be5d74, 0x80deb1fe, 0x9bdc06a7, 0xc19bf174,
    0xe49b69c1, 0xefbe4786, 0x0fc19dc6, 0x240ca1cc, 0x2de92c6f, 0x4a7484aa, 0x5cb0a9dc, 0x76f988da,
    0x983e5152, 0xa831c66d, 0xb00327c8, 0xbf597fc7, 0xc6e00bf3, 0xd5a79147, 0x06ca6351, 0x14292967,
    0x27b70a85, 0x2e1b2138, 0x4d2c6dfc, 0x53380d13, 0x650a7354, 0x766a0abb, 0x81c2c92e, 0x92722c85,
    0xa2bfe8a1, 0xa81a664b, 0xc24b8b70, 0xc76c51a3, 0xd192e819, 0xd6990624, 0xf40e3585, 0x106aa070,
    0x19a4c116, 0x1e376c08, 0x2748774c, 0x34b0bcb5, 0x391c0cb3, 0x4ed8aa4a, 0x5b9cca4f, 0x682e6ff3,
    0x748f82ee, 0x78a5636f, 0x84c87814, 0x8cc70208, 0x90befffa, 0xa4506ceb, 0xbef9a3f7, 0xc67178f2]

/-- A word turned to the right. -/
def turn (x : UInt32) (n : UInt32) : UInt32 := (x >>> n) ||| (x <<< (32 - n))

/-- The bytes of a number, the highest first. -/
def bigEndian (count : Nat) (n : Nat) : List UInt8 :=
  (List.range count).map fun i => UInt8.ofNat (n >>> (8 * (count - 1 - i)))

/-- The number that bytes write, the highest first. -/
def ofBigEndian (bytes : List UInt8) : Nat := bytes.foldl (fun n b => n * 256 + b.toNat) 0

/-- The message with a one bit, zeros and its length in bits behind it, in whole blocks. -/
def pad (message : List UInt8) : List UInt8 :=
  let zeros := (119 - message.length % 64) % 64
  message ++ 0x80 :: (List.replicate zeros 0 ++ bigEndian 8 (8 * message.length))

/-- The first `count` words of some bytes. -/
def words : Nat → List UInt8 → List UInt32
  | 0, _ => []
  | count + 1, bytes => UInt32.ofNat (ofBigEndian (bytes.take 4)) :: words count (bytes.drop 4)

/-- Extends the words of a block to those of all rounds. `recent` are the last sixteen words, the newest first. -/
def schedule : Nat → List UInt32 → List UInt32 → List UInt32
  | 0, _, done => done.reverse
  | more + 1, recent, done =>
    let at_ (i : Nat) : UInt32 := recent.getD (i - 1) 0
    let s0 := turn (at_ 15) 7 ^^^ turn (at_ 15) 18 ^^^ (at_ 15 >>> 3)
    let s1 := turn (at_ 2) 17 ^^^ turn (at_ 2) 19 ^^^ (at_ 2 >>> 10)
    let w := at_ 16 + s0 + at_ 7 + s1
    schedule more (w :: recent.take 15) (w :: done)

/-- One round with its constant and its word. -/
def round (state : List UInt32) (constantAndWord : UInt32 × UInt32) : List UInt32 :=
  match state with
  | [a, b, c, d, e, f, g, h] =>
    let s1 := turn e 6 ^^^ turn e 11 ^^^ turn e 25
    let choice := (e &&& f) ^^^ (~~~e &&& g)
    let t1 := h + s1 + choice + constantAndWord.1 + constantAndWord.2
    let s0 := turn a 2 ^^^ turn a 13 ^^^ turn a 22
    let majority := (a &&& b) ^^^ (a &&& c) ^^^ (b &&& c)
    [t1 + (s0 + majority), a, b, c, d + t1, e, f, g]
  | other => other

/-- Mixes one block into the words. -/
def mix (state : List UInt32) (block : List UInt8) : List UInt32 :=
  let first := words 16 block
  let all := schedule 48 first.reverse first.reverse
  let mixed := (roundConstants.zip all).foldl round state
  List.zipWith (· + ·) state mixed

/-- Mixes so many blocks into the words. -/
def mixBlocks : Nat → List UInt32 → List UInt8 → List UInt32
  | 0, state, _ => state
  | count + 1, state, bytes => mixBlocks count (mix state (bytes.take 64)) (bytes.drop 64)

/-- The digest of a message as eight words. -/
def digestWords (message : List UInt8) : List UInt32 :=
  let padded := pad message
  mixBlocks (padded.length / 64) initialWords padded

/-- The first eight bytes of the digest, as a number. -/
def leadingWord (message : List UInt8) : UInt64 :=
  match digestWords message with
  | a :: b :: _ => UInt64.ofNat (a.toNat * 4294967296 + b.toNat)
  | _ => 0

end Sha256

end FlagKeeper
