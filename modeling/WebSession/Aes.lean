import WebSession.Bytes
import WebSession.Error
/-!
# WebSession.Aes

**The AES block cipher**, in the direction in which counter mode uses it.

Design points:

* A block is a vector of sixteen octets, column after column.
* The substitution table is computed from its definition: the inverse in the field of 256
  elements, then an affine map of the bits.
* A key is a `CipherKey`, which has one of the three lengths the cipher knows; its length
  alone decides the number of rounds.
-/

namespace WebSession

/-- A block of the cipher. -/
abbrev Block := Vector UInt8 16

/-- A key of 16, 24 or 32 octets. -/
structure CipherKey where
  octets : Bytes
  /-- The cipher knows the length. -/
  known : octets.length = 16 ∨ octets.length = 24 ∨ octets.length = 32

/-- The key with the given octets, if the cipher knows their number. -/
def CipherKey.ofBytes (b : Bytes) : Except Error CipherKey :=
  if h : b.length = 16 ∨ b.length = 24 ∨ b.length = 32 then .ok ⟨b, h⟩
  else .error (.invalidKeyLength b.length)

namespace Aes

/-! ### The field of 256 elements -/

/-- Twice an element. -/
def double (x : UInt8) : UInt8 := x <<< 1 ^^^ (if x < 0x80 then 0 else 0x1b)

/-- The product of two elements, by the low eight bits of the second. -/
def multiply (x y : UInt8) : UInt8 :=
  (Nat.fold 8 (fun i _ (acc : UInt8 × UInt8) =>
    (if y.toNat.testBit i then acc.1 ^^^ acc.2 else acc.1, double acc.2)) (0, x)).1

/-- The inverse of an element, zero for zero: its 254th power. -/
def inverse (x : UInt8) : UInt8 :=
  Nat.fold 253 (fun _ _ acc => multiply acc x) x

/-- Rotates an octet to the left. -/
def rotateLeft (x : UInt8) (n : UInt8) : UInt8 := x <<< n ||| x >>> (8 - n)

/-- The substitution of an octet, from its definition. -/
def substitution (x : UInt8) : UInt8 :=
  let y := inverse x
  y ^^^ rotateLeft y 1 ^^^ rotateLeft y 2 ^^^ rotateLeft y 3 ^^^ rotateLeft y 4 ^^^ 0x63

/-- The substitutions of all octets. -/
def substitutions : Array UInt8 := Array.ofFn fun i : Fin 256 => substitution (UInt8.ofNat i.val)

/-- The substitution of an octet. -/
def substitute (x : UInt8) : UInt8 := substitutions.getD x.toNat 0

/-! ### Rounds -/

/-- Substitutes every octet. -/
def substituteBlock (s : Block) : Block := s.map substitute

/-- The octet at a place of a block, counted around its end. -/
def octetAt (s : Block) (i : Nat) : UInt8 := s.get ⟨i % 16, Nat.mod_lt _ (by decide)⟩

/-- Moves row `r` by `r` columns to the left. -/
def shiftRows (s : Block) : Block :=
  Vector.ofFn fun i => octetAt s (i.val % 4 + 4 * ((i.val / 4 + i.val % 4) % 4))

/-- Mixes the octets of every column. -/
def mixColumns (s : Block) : Block :=
  Vector.ofFn fun i =>
    let row (r : Nat) : UInt8 := octetAt s (4 * (i.val / 4) + (i.val + r) % 4)
    double (row 0) ^^^ (double (row 1) ^^^ row 1) ^^^ row 2 ^^^ row 3

/-- Combines two blocks octet by octet. -/
def xorBlock (s t : Block) : Block := s.zipWith (· ^^^ ·) t

/-- The rounds with the keys that are left; the last round does not mix columns. -/
def rounds (s : Block) : List Block → Block
  | [] => s
  | [last] => xorBlock (shiftRows (substituteBlock s)) last
  | key :: more => rounds (xorBlock (mixColumns (shiftRows (substituteBlock s))) key) more

/-! ### Keys -/

/-- Substitutes the four octets of a word. -/
def substituteWord (w : UInt32) : UInt32 :=
  let octet (n : UInt32) := (substitute (w >>> n).toUInt8).toUInt32 <<< n
  octet 24 ||| octet 16 ||| octet 8 ||| octet 0

/-- The constant of a round of the key schedule. -/
def roundConstant (i : Nat) : UInt32 :=
  (Nat.fold (i - 1) (fun _ _ x => double x) (1 : UInt8)).toUInt32 <<< 24

/-- The next word of the key schedule behind the words `w`, the first `n` of which are the key. -/
def nextWord (n : Nat) (w : Array UInt32) : UInt32 :=
  let i := w.size
  let last := w.getD (i - 1) 0
  let mixed :=
    if i % n = 0 then substituteWord (last <<< 8 ||| last >>> 24) ^^^ roundConstant (i / n)
    else if 6 < n ∧ i % n = 4 then substituteWord last
    else last
  w.getD (i - n) 0 ^^^ mixed

/-- The words of a key. -/
def keyWords (key : Bytes) : Array UInt32 :=
  (Array.range (key.length / 4)).map fun i =>
    UInt32.ofNat (Bytes.toNat ((key.drop (4 * i)).take 4))

/-- The round keys. -/
def roundKeys (key : CipherKey) : List Block :=
  let first := keyWords key.octets
  let n := first.size
  let words := Nat.fold (4 * (n + 7) - n) (fun _ _ w => w.push (nextWord n w)) first
  (List.range (n + 7)).map fun r =>
    Vector.ofFn fun i =>
      (words.getD (4 * r + i.val / 4) 0 >>> (24 - 8 * UInt32.ofNat (i.val % 4))).toUInt8

/-- Encrypts a block with the round keys. -/
def encryptWith (keys : List Block) (b : Block) : Block :=
  match keys with
  | [] => b
  | key :: more => rounds (xorBlock b key) more

end Aes

/-- The block function of a key. -/
def CipherKey.encryptBlock (key : CipherKey) : Block → Block := Aes.encryptWith (Aes.roundKeys key)

end WebSession
