import WebSession.Binary64
/-!
# WebSession.Binary64.Shortest

**The shortest decimal of a floating-point number**: the fewest digits that still tell it from
its neighbours.

Design points:

* A decimal belongs to a number if rounding it to the nearest number, a tie going to the even
  significand, gives that number. These decimals fill an interval, whose ends belong to it just
  when the significand is even.
* Grids of powers of ten are tried from coarse to fine. If any point of a grid lies in the
  interval then so does one of the two around the number itself, and no other is looked at.
* Of two such points the nearer one is taken, of two equally near ones the even one.
* All comparisons are of natural numbers: the interval in units of `2 ^ -1076`.
-/

namespace WebSession.Binary64

/-- A decimal number: `digits * 10 ^ exponent`. -/
structure Decimal where
  /-- The digits as one number. -/
  digits : Nat
  /-- The power of ten beside them. -/
  exponent : Int
  deriving DecidableEq

/-- The magnitude of a finite number in units of `2 ^ -1076`. -/
def magnitude (x : Binary64) : Nat := (4 * x.significand) <<< x.scale

/-- The lower end of the interval that rounds to a finite number. The number below a power of
two is nearer than the one above it. -/
def lowerEnd (x : Binary64) : Nat :=
  (4 * x.significand - if x.fractionField = 0 ∧ 1 < x.exponentField then 1 else 2) <<< x.scale

/-- The upper end of the interval that rounds to a finite number. -/
def upperEnd (x : Binary64) : Nat := (4 * x.significand + 2) <<< x.scale

/-- The power of ten by which both sides of a comparison with a grid are multiplied. -/
def gridFactor (exponent : Int) : Nat := Nat.pow 10 (-exponent).toNat

/-- The distance of two grid points in units of `2 ^ -1076`, times the factor. -/
def gridStep (exponent : Int) : Nat := Nat.pow 10 exponent.toNat <<< 1076

/-- Whether the decimal rounds to the magnitude of a number. -/
def isRead (x : Binary64) (d : Decimal) : Bool :=
  let point := d.digits * gridStep d.exponent
  let low := x.lowerEnd * gridFactor d.exponent
  let high := x.upperEnd * gridFactor d.exponent
  if x.significand % 2 = 0 then low ≤ point && point ≤ high else low < point && point < high

/-- The decimal on a grid that is nearest among those that round to a number. -/
def onGrid? (x : Binary64) (exponent : Int) : Option Decimal :=
  let scaled := x.magnitude * gridFactor exponent
  let below : Decimal := ⟨scaled / gridStep exponent, exponent⟩
  let above : Decimal := ⟨below.digits + 1, exponent⟩
  match x.isRead below, x.isRead above with
  | true, true => some ⟨roundHalfEven scaled (gridStep exponent), exponent⟩
  | true, false => some below
  | false, true => some above
  | false, false => none

/-- A power of ten beyond the magnitude of a number that is not zero. -/
def gridTop (x : Binary64) : Int :=
  if 1 <<< 1076 ≤ x.magnitude then ((Nat.repr (x.magnitude >>> 1076)).length : Int) + 1
  else 2 - ((Nat.repr ((1 <<< 1076) / x.magnitude)).length : Int)

/-- The shortest decimal of the magnitude of a finite number. -/
def shortest (x : Binary64) : Decimal :=
  if x.isZero then ⟨0, 0⟩
  else ((List.range 21).findSome? fun (i : Nat) => x.onGrid? (x.gridTop - i)).getD ⟨0, 0⟩

end WebSession.Binary64
