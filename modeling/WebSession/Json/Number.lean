import WebSession.Json
import WebSession.Bytes
import WebSession.Range
/-!
# WebSession.Json.Number

**The numbers of JSON texts.**

Design points:

* A number without fraction and exponent is an integer when it fits sixty-four bits, with
  or without a sign; `-0` is the negative zero and no integer.
* Every other number has a decimal significand of sixty-four bits and a decimal exponent.
  Digits are taken into the significand as long as they fit; the first digit that does not
  fit ends it, and the integer digits from there on count into the exponent.
* Significand and power of ten are each rounded to a floating-point number, and their
  product or quotient is rounded once more. This is fast, and in the last digit not always
  the nearest number to the text.
* A number beyond the finite range is no number; one below it is zero.
-/

namespace WebSession.Json.Number

/-! ### Syntax -/

/-- The value of a decimal digit. -/
def digit? (b : UInt8) : Option Nat := if 0x30 ≤ b ∧ b ≤ 0x39 then some (b.toNat - 0x30) else none

/-- Whether an octet is a decimal digit. -/
def isDigit (b : UInt8) : Bool := 0x30 ≤ b && b ≤ 0x39

/-- The values of digits. -/
def values (digits : Bytes) : List Nat := digits.map fun b => b.toNat - 0x30

/-- A number as written. -/
structure Literal where
  negative : Bool
  /-- The digits in front of the point. -/
  whole : Bytes
  /-- The digits behind the point, if there is one. -/
  fraction : Option Bytes
  /-- The sign (`true` for a minus) and the digits of the exponent, if there is one. -/
  exponent : Option (Bool × Bytes)

/-- Takes the digits off the front. -/
def digits (b : Bytes) : Bytes × Bytes := b.span isDigit

/-- Takes at least one digit off the front. -/
def digits? (b : Bytes) : Option (Bytes × Bytes) :=
  match digits b with
  | ([], _) => none
  | taken => some taken

/-- The integer part: a zero alone, or digits that do not begin with a zero. -/
def whole? (b : Bytes) : Option (Bytes × Bytes) :=
  match digits b with
  | ([], _) => none
  | ([d], rest) => some ([d], rest)
  | (d :: ds, rest) => if d = 0x30 then none else some (d :: ds, rest)

/-- The fraction, if a point begins one. -/
def fraction? : Bytes → Option (Option Bytes × Bytes)
  | 0x2e :: rest => (digits? rest).map fun p => (some p.1, p.2)
  | rest => some (none, rest)

/-- The digits of an exponent behind its optional sign. -/
def signedDigits? : Bytes → Option ((Bool × Bytes) × Bytes)
  | 0x2b :: rest => (digits? rest).map fun p => ((false, p.1), p.2)
  | 0x2d :: rest => (digits? rest).map fun p => ((true, p.1), p.2)
  | rest => (digits? rest).map fun p => ((false, p.1), p.2)

/-- The exponent, if a letter begins one. -/
def exponent? : Bytes → Option (Option (Bool × Bytes) × Bytes)
  | 0x65 :: rest => (signedDigits? rest).map fun p => (some p.1, p.2)
  | 0x45 :: rest => (signedDigits? rest).map fun p => (some p.1, p.2)
  | rest => some (none, rest)

/-- Reads a number as it is written. -/
def literal? (b : Bytes) : Option (Literal × Bytes) := do
  let (negative, rest) := match b with
    | 0x2d :: rest => (true, rest)
    | rest => (false, rest)
  let (whole, rest) ← whole? rest
  let (fraction, rest) ← fraction? rest
  let (exponent, rest) ← exponent? rest
  pure (⟨negative, whole, fraction, exponent⟩, rest)

/-! ### Value -/

/-- Takes digits into a significand as long as it stays below `2 ^ 64`; says also how many
digits are left. -/
def takeDigits : Nat → List Nat → Nat × Nat
  | significand, [] => (significand, 0)
  | significand, d :: ds =>
    if Range.isUInt64 (10 * significand + d) then takeDigits (10 * significand + d) ds
    else (significand, ds.length + 1)

/-- The value of an exponent's digits; what exceeds thirty-two bits by far is not told apart. -/
def exponentValue (ds : List Nat) : Nat :=
  ds.foldl (fun e d => if e < 0x100000000 then 10 * e + d else e) 0

/-- A power of ten as a floating-point number. -/
def tenTo (n : Nat) : Binary64 := Binary64.ofNat (Nat.pow 10 n)

/-- Multiplies a number that is not negative by a power of ten, dividing by `10 ^ 308` as long
as the exponent is below that. -/
def scale (x : Binary64) (exponent : Int) : Option Binary64 :=
  if exponent < -308 then
    if x.isZero then some x else scale (x.div (tenTo 308)) (exponent + 308)
  else if exponent < 0 then some (x.div (tenTo exponent.natAbs))
  else if exponent ≤ 308 then some (x.mul (tenTo exponent.natAbs))
  else if x.isZero then some x
  else none
termination_by exponent.natAbs

/-- A floating-point number with a sign, if it is finite. -/
def finite? (negative : Bool) (x : Binary64) : Option Json :=
  let x := if negative then x.neg else x
  if h : x.isFinite = true then some (.float x h) else none

/-- The number that a literal stands for. -/
def Literal.value? (l : Literal) : Option Json :=
  let (significand, dropped) := takeDigits 0 (values l.whole)
  if l.fraction.isNone && l.exponent.isNone && dropped = 0 then
    if l.negative then
      if 0 < significand ∧ Range.isInt64 (-significand) then some (.int (-significand))
      else finite? true (Binary64.ofNat significand)
    else some (.int significand)
  else do
    let places := values (l.fraction.getD [])
    let (significand, left) := takeDigits significand places
    let exponent : Int := match l.exponent with
      | some (true, ds) => -exponentValue (values ds)
      | some (false, ds) => exponentValue (values ds)
      | none => 0
    let x ← scale (Binary64.ofNat significand) (exponent + dropped - (places.length - left : Nat))
    finite? l.negative x

/-- Reads a number. -/
def read? (b : Bytes) : Option (Json × Bytes) := do
  let (l, rest) ← literal? b
  let j ← l.value?
  pure (j, rest)

end WebSession.Json.Number
