import WebSession.Bytes
/-!
# WebSession.Percent

**Percent-encoded text**: octets that cannot stand for themselves, written as a percent sign
and two hexadecimal digits.

Design points:

* Which octets stand for themselves is the caller's choice; the reader does not depend on it.
* Digits are written in upper case and read in either case.
* A percent sign without two digits behind it stands for itself.
-/

namespace WebSession.Percent

/-- The upper-case hexadecimal digit of a number below sixteen. -/
def digit (n : Nat) : Char :=
  if n < 10 then Char.ofNat (48 + n) else Char.ofNat (55 + n)

/-- The characters of an octet. -/
def encodeOctet (isPlain : UInt8 → Bool) (b : UInt8) : List Char :=
  if isPlain b then [Char.ofNat b.toNat]
  else ['%', digit (b.toNat / 16), digit (b.toNat % 16)]

/-- The text with every octet encoded that is not plain. -/
def encode (isPlain : UInt8 → Bool) (s : String) : String :=
  String.ofList ((Bytes.ofText s).flatMap (encodeOctet isPlain))

/-- The octets of encoded octets, in reverse order in front of `done`. -/
def decodeOnto (done : Bytes) : Bytes → Bytes
  | 0x25 :: h :: l :: rest =>
    match Bytes.hexValue? (Char.ofNat h.toNat), Bytes.hexValue? (Char.ofNat l.toNat) with
    | some high, some low => decodeOnto (UInt8.ofNat (16 * high + low) :: done) rest
    | _, _ => decodeOnto (0x25 :: done) (h :: l :: rest)
  | b :: rest => decodeOnto (b :: done) rest
  | [] => done
termination_by b => b.length

/-- The octets of encoded octets. -/
def decode (b : Bytes) : Bytes := (decodeOnto [] b).reverse

end WebSession.Percent
