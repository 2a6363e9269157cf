import WebSession.Bytes
/-!
# WebSession.Sha256

**The SHA-256 digest and the message authentication code built on it.**

Design points:

* A digest is a vector of thirty-two octets, so its width needs no proof.
* Words and blocks are arithmetic on `UInt32`, which wraps as the standard asks.
* `Sha256.authenticate` is HMAC: the digest of the outer padded key in front of the digest of
  the inner padded key in front of the message.
-/

namespace WebSession.Sha256

/-- A digest. -/
abbrev Digest := Vector UInt8 32

/-! ### Constants -/

/-- The round constants: the first fractional bits of the cube roots of the first sixty-four
primes. -/
def roundConstants : Array UInt32 := #[
  0x428a2f98, 0x71374491, 0xb5c0fbcf, 0xe9b5dba5, 0x3956c25b, 0x59f111f1, 0x923f82a4, 0xab1c5ed5,
  0xd807aa98, 0x12835b01, 0x243185be, 0x550c7dc3, 0x72be5d74, 0x80deb1fe, 0x9bdc06a7, 0xc19bf174,
  0xe49b69c1, 0xefbe4786, 0x0fc19dc6, 0x240ca1cc, 0x2de92c6f, 0x4a7484aa, 0x5cb0a9dc, 0x76f988da,
  0x983e5152, 0xa831c66d, 0xb00327c8, 0xbf597fc7, 0xc6e00bf3, 0xd5a79147, 0x06ca6351, 0x14292967,
  0x27b70a85, 0x2e1b2138, 0x4d2c6dfc, 0x53380d13, 0x650a7354, 0x766a0abb, 0x81c2c92e, 0x92722c85,
  0xa2bfe8a1, 0xa81a664b, 0xc24b8b70, 0xc76c51a3, 0xd192e819, 0xd6990624, 0xf40e3585, 0x106aa070,
  0x19a4c116, 0x1e376c08, 0x2748774c, 0x34b0bcb5, 0x391c0cb3, 0x4ed8aa4a, 0x5b9cca4f, 0x682e6ff3,
  0x748f82ee, 0x78a5636f, 0x84c87814, 0x8cc70208, 0x90befffa, 0xa4506ceb, 0xbef9a3f7, 0xc67178f2]

/-- The eight words that are carried from block to block. -/
structure Chain where
  a : UInt32
  b : UInt32
  c : UInt32
  d : UInt32
  e : UInt32
  f : UInt32
  g : UInt32
  h : UInt32

/-- The chain before the first block: the first fractional bits of the square roots of the
first eight primes. -/
def Chain.start : Chain :=
  ⟨0x6a09e667, 0xbb67ae85, 0x3c6ef372, 0xa54ff53a, 0x510e527f, 0x9b05688c, 0x1f83d9ab, 0x5be0cd19⟩

/-- Adds two chains word by word. -/
def Chain.add (x y : Chain) : Chain :=
  ⟨x.a + y.a, x.b + y.b, x.c + y.c, x.d + y.d, x.e + y.e, x.f + y.f, x.g + y.g, x.h + y.h⟩

/-! ### Padding -/

/-- The message with a one bit, zeros and its length in bits behind it, a whole number of
blocks long. -/
def pad (message : Bytes) : Bytes :=
  let n := message.length
  message ++ 0x80 :: (List.replicate ((119 - n % 64) % 64) 0 ++ Bytes.bigEndian 8 (8 * n))

/-- The big-endian words of the octets behind those in `done`. -/
def wordsInto (done : Array UInt32) : Bytes → Array UInt32
  | b0 :: b1 :: b2 :: b3 :: rest =>
    wordsInto (done.push
      (b0.toUInt32 <<< 24 ||| b1.toUInt32 <<< 16 ||| b2.toUInt32 <<< 8 ||| b3.toUInt32)) rest
  | _ => done

/-! ### Compression -/

/-- Rotates a word to the right. -/
def rotate (x : UInt32) (n : UInt32) : UInt32 := x >>> n ||| x <<< (32 - n)

/-- The mixing of an earlier word into the schedule. -/
def smallSigma0 (x : UInt32) : UInt32 := rotate x 7 ^^^ rotate x 18 ^^^ x >>> 3

/-- The mixing of a later word into the schedule. -/
def smallSigma1 (x : UInt32) : UInt32 := rotate x 17 ^^^ rotate x 19 ^^^ x >>> 10

/-- The sixty-four words of a block's schedule: its own sixteen, then sums of earlier ones. -/
def schedule (block : Array UInt32) : Array UInt32 :=
  Nat.fold 48 (fun i _ w =>
    w.push (smallSigma1 (w.getD (i + 14) 0) + w.getD (i + 9) 0
      + smallSigma0 (w.getD (i + 1) 0) + w.getD i 0)) block

/-- One round with the sum of its constant and its schedule word. -/
def round (s : Chain) (k : UInt32) : Chain :=
  let sum1 := rotate s.e 6 ^^^ rotate s.e 11 ^^^ rotate s.e 25
  let choice := (s.e &&& s.f) ^^^ (~~~ s.e &&& s.g)
  let t1 := s.h + sum1 + choice + k
  let sum0 := rotate s.a 2 ^^^ rotate s.a 13 ^^^ rotate s.a 22
  let majority := (s.a &&& s.b) ^^^ (s.a &&& s.c) ^^^ (s.b &&& s.c)
  ⟨t1 + sum0 + majority, s.a, s.b, s.c, s.d + t1, s.e, s.f, s.g⟩

/-- Takes one block into the chain. -/
def compress (s : Chain) (block : Array UInt32) : Chain :=
  let w := schedule block
  s.add (Nat.fold 64 (fun i _ t => round t (roundConstants.getD i 0 + w.getD i 0)) s)

/-- The chain after all blocks of a padded message. -/
def chain (padded : Bytes) : Chain :=
  let words := wordsInto #[] padded
  Nat.fold (words.size / 16) (fun i _ s => compress s (words.extract (16 * i) (16 * i + 16))) .start

/-! ### Digests -/

/-- The octets of a chain. -/
def Chain.digest (s : Chain) : Digest :=
  let words : Vector UInt32 8 := #v[s.a, s.b, s.c, s.d, s.e, s.f, s.g, s.h]
  Vector.ofFn fun i => (words[i.val / 4] >>> (24 - 8 * UInt32.ofNat (i.val % 4))).toUInt8

/-- The digest of a message. -/
def hash (message : Bytes) : Digest := (chain (pad message)).digest

/-- The key as one block: a longer key is replaced by its digest, a shorter one filled up with
zeros. -/
def blockKey (key : Bytes) : Bytes :=
  let key := if 64 < key.length then (hash key).toList else key
  key ++ List.replicate (64 - key.length) 0

/-- The authentication code of a message under a key. -/
def authenticate (key message : Bytes) : Digest :=
  let k := blockKey key
  let inner := hash (k.map (· ^^^ 0x36) ++ message)
  hash (k.map (· ^^^ 0x5c) ++ inner.toList)

end WebSession.Sha256
