import WebSession.Aes
/-!
# WebSession.CounterMode

**Encryption of octet strings by a block function in counter mode.**

The encrypted form of a text is an initial counter of one block and, behind it, the text with
one block of salt in front, combined with the encrypted counters.

Design points:

* The block function is a parameter. Nothing here depends on which function it is, nor on its
  being invertible.
* The counter is a big-endian number of 128 bits that wraps around.
* An empty text is never decrypted: what is too short to hold anything behind the salt is
  refused.
-/

namespace WebSession.CounterMode

/-- The number of octets of a block. -/
def blockSize : Nat := 16

/-- The block that a number counts, modulo `2 ^ 128`. -/
def counterBlock (n : Nat) : Block :=
  ⟨(Bytes.bigEndian blockSize n).toArray, by simp [blockSize]⟩

/-- The encrypted counters for so many octets. -/
def keystream (encrypt : Block → Block) (counter : Nat) (length : Nat) : Bytes :=
  (List.range ((length + (blockSize - 1)) / blockSize)).flatMap fun i =>
    (encrypt (counterBlock (counter + i))).toList

/-- Combines octets with the encrypted counters. Doing it twice changes nothing. -/
def apply (encrypt : Block → Block) (counter : Bytes) (data : Bytes) : Bytes :=
  List.zipWith (· ^^^ ·) data (keystream encrypt counter.toNat data.length)

/-- The encrypted form of a text. -/
def encrypt (block : Block → Block) (counter salt : Block) (text : Bytes) : Bytes :=
  counter.toList ++ apply block counter.toList (salt.toList ++ text)

/-- The text of an encrypted form. -/
def decrypt (block : Block → Block) (data : Bytes) : Except Error Bytes :=
  let (counter, rest) := data.splitAt blockSize
  if rest.isEmpty then .error .decryption
  else
    let text := (apply block counter rest).drop blockSize
    if text.isEmpty then .error .decryption else .ok text

end WebSession.CounterMode
