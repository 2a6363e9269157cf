/-!
# WebSession.Binary64

**Floating-point numbers** as their IEEE 754 bit patterns.

Design points:

* A number *is* its sixty-four bits. A session keeps them through every codec, so the
  sign of a zero and the payload of a not-a-number are never lost, and equality of
  values is equality of bits.
* `Binary64.same` is the comparison of the standard: a not-a-number differs from
  itself, and the two zeros agree.
* `Binary64.ofRatio` rounds a quotient of two natural numbers to the nearest number, a
  tie going to the even significand. It works in exact integer arithmetic, and every
  other conversion is built on it.
-/

namespace WebSession

/-- A double-precision number: one sign bit, eleven exponent bits, fifty-two fraction bits. -/
structure Binary64 where
  /-- The bits, the sign first. -/
  bits : UInt64
  deriving DecidableEq

namespace Binary64

/-! ### Parts -/

/-- The exponent field. -/
def exponentField (x : Binary64) : Nat := (x.bits.toNat >>> 52) % 2048

/-- The fraction field. -/
def fractionField (x : Binary64) : Nat := x.bits.toNat % (1 <<< 52)

/-- The sign bit is set. -/
def isNegative (x : Binary64) : Bool := 1 <<< 63 ≤ x.bits.toNat

/-- The number is neither infinite nor a not-a-number. -/
def isFinite (x : Binary64) : Bool := x.exponentField ≠ 2047

/-- The bits stand for no number. -/
def isNaN (x : Binary64) : Bool := x.exponentField = 2047 ∧ x.fractionField ≠ 0

/-- The bits stand for positive or negative zero. -/
def isZero (x : Binary64) : Bool := x.bits.toNat % (1 <<< 63) = 0

/-- Comparison as numbers: a not-a-number equals nothing, and the zeros equal each other. -/
def same (x y : Binary64) : Bool :=
  !x.isNaN && !y.isNaN && (x.bits == y.bits || (x.isZero && y.isZero))

/-- The magnitude of a finite number is `significand * 2 ^ scale / 2 ^ 1074`. -/
def significand (x : Binary64) : Nat :=
  if x.exponentField = 0 then x.fractionField else (1 <<< 52) + x.fractionField

/-- The power of two beside the significand, counted from the least one. -/
def scale (x : Binary64) : Nat := x.exponentField - 1

/-! ### Rounding -/

/-- Positive infinity. -/
def infinity : Binary64 := ⟨0x7ff0000000000000⟩

/-- The number with the sign bit flipped. -/
def neg (x : Binary64) : Binary64 := ⟨x.bits ^^^ 0x8000000000000000⟩

/-- A quotient rounded to the nearest whole number, a tie going to the even one. -/
def roundHalfEven (num den : Nat) : Nat :=
  let q := num / den
  let r := num % den
  if 2 * r < den then q
  else if den < 2 * r then q + 1
  else q + q % 2

/-- The nearest number to `num / den`, for `0 < den`; too large a quotient is infinite.

The quotient is counted in units of `2 ^ (s - 1074)`, with the least `s` that leaves no more
than fifty-three binary digits. A significand that rounds up to `2 ^ 53` runs over into the
exponent field, which is the right number again. -/
def ofRatio (num den : Nat) : Binary64 :=
  let s := Nat.log2 ((num <<< 1074) / den) - 52
  let m := roundHalfEven (num <<< 1074) (den <<< s)
  let bits := (s <<< 52) + m
  if bits < 2047 <<< 52 then ⟨UInt64.ofNat bits⟩ else infinity

/-- The nearest number to a natural number. -/
def ofNat (n : Nat) : Binary64 := ofRatio n 1

/-- The nearest number to an integer. -/
def ofInt (n : Int) : Binary64 :=
  if n < 0 then (ofNat n.natAbs).neg else ofNat n.natAbs

/-- The nearest number to the product of two finite numbers that are not negative. -/
def mul (x y : Binary64) : Binary64 :=
  ofRatio ((x.significand * y.significand) <<< (x.scale + y.scale)) (1 <<< 2148)

/-- The nearest number to the quotient of two finite numbers that are not negative, the
second of which is not zero. -/
def div (x y : Binary64) : Binary64 :=
  ofRatio (x.significand <<< x.scale) (y.significand <<< y.scale)

/-! ### Single precision -/

/-- The number that thirty-two bits stand for. Widening is exact; a not-a-number keeps its
payload and becomes a quiet one. -/
def ofBinary32 (bits : Nat) : Binary64 :=
  let exponent := (bits >>> 23) % 256
  let fraction := bits % (1 <<< 23)
  let magnitude :=
    if exponent = 255 then
      if fraction = 0 then infinity
      else ⟨UInt64.ofNat ((2047 <<< 52) + ((fraction <<< 29) ||| (1 <<< 51)))⟩
    else if exponent = 0 then ofRatio fraction (1 <<< 149)
    else ofRatio (((1 <<< 23) + fraction) <<< exponent) (1 <<< 150)
  if bits >>> 31 = 0 then magnitude else magnitude.neg

end Binary64

end WebSession
