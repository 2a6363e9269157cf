import WebSession.Bytes
/-!
# WebSession.Base64Url

**Octets as text that is safe in cookies**: base 64 with the alphabet for addresses, without
padding.

Design points:

* Three octets are four characters; one or two octets at the end are two or three characters,
  the spare bits of which are zero.
* Reading is strict: a character outside the alphabet, a lone last character or a spare bit
  that is not zero is refused. So an octet string has one text only.
-/

namespace WebSession.Base64Url

/-- The character of a six-bit number. -/
def digit (n : Nat) : Char :=
  if n < 26 then Char.ofNat (65 + n)
  else if n < 52 then Char.ofNat (71 + n)
  else if n < 62 then Char.ofNat (n - 4)
  else if n = 62 then '-'
  else '_'

/-- The six-bit number of a character. -/
def digit? (c : Char) : Option Nat :=
  if 'A' ≤ c ∧ c ≤ 'Z' then some (c.toNat - 65)
  else if 'a' ≤ c ∧ c ≤ 'z' then some (c.toNat - 71)
  else if '0' ≤ c ∧ c ≤ '9' then some (c.toNat + 4)
  else if c = '-' then some 62
  else if c = '_' then some 63
  else none

/-! ### Writing -/

/-- The characters of the octets, in reverse order in front of `done`. -/
def writeOnto (done : List Char) : Bytes → List Char
  | a :: b :: c :: rest =>
    writeOnto (digit (c.toNat % 64) :: digit (b.toNat % 16 * 4 + c.toNat / 64)
      :: digit (a.toNat % 4 * 16 + b.toNat / 16) :: digit (a.toNat / 4) :: done) rest
  | [a, b] =>
    digit (b.toNat % 16 * 4) :: digit (a.toNat % 4 * 16 + b.toNat / 16)
      :: digit (a.toNat / 4) :: done
  | [a] => digit (a.toNat % 4 * 16) :: digit (a.toNat / 4) :: done
  | [] => done

/-- The text of an octet string. -/
def encode (b : Bytes) : String := String.ofList (writeOnto [] b).reverse

/-! ### Reading -/

/-- The octets of the characters behind those in `done`, which are in reverse order. -/
def readOnto (done : Bytes) : List Char → Option Bytes
  | c0 :: c1 :: c2 :: c3 :: rest =>
    match digit? c0, digit? c1, digit? c2, digit? c3 with
    | some d0, some d1, some d2, some d3 =>
      readOnto (UInt8.ofNat (d2 % 4 * 64 + d3) :: UInt8.ofNat (d1 % 16 * 16 + d2 / 4)
        :: UInt8.ofNat (d0 * 4 + d1 / 16) :: done) rest
    | _, _, _, _ => none
  | [c0, c1, c2] =>
    match digit? c0, digit? c1, digit? c2 with
    | some d0, some d1, some d2 =>
      if d2 % 4 = 0 then
        some (UInt8.ofNat (d1 % 16 * 16 + d2 / 4) :: UInt8.ofNat (d0 * 4 + d1 / 16) :: done)
      else none
    | _, _, _ => none
  | [c0, c1] =>
    match digit? c0, digit? c1 with
    | some d0, some d1 =>
      if d1 % 16 = 0 then some (UInt8.ofNat (d0 * 4 + d1 / 16) :: done) else none
    | _, _ => none
  | [_] => none
  | [] => some done

/-- The octets of characters. -/
def decodeChars (cs : List Char) : Option Bytes := (readOnto [] cs).map List.reverse

/-- The octets of a text. -/
def decode (s : String) : Option Bytes := decodeChars s.toList

end WebSession.Base64Url
